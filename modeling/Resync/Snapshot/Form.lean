import Resync.Snapshot.Basic
import Resync.Text.Json

/-! # JSON forms of snapshot parts

The members of each object stand in one fixed order.
-/
namespace Resync

def Column.json (c : Column) : Json :=
  .obj [("name", .str c.name), ("data_type", .int c.dataType), ("native_type", .str c.nativeType)]

def UniqueConstraint.json (k : UniqueConstraint) : Json :=
  .obj [("name", .str k.name), ("schema", .str k.schema), ("table", .str k.table),
    ("columns", .ofStrings k.columns)]

def ForeignKey.json (k : ForeignKey) : Json :=
  .obj [("name", .str k.name), ("schema", .str k.schema), ("table", .str k.table),
    ("foreign_schema", .str k.foreignSchema), ("foreign_table", .str k.foreignTable),
    ("columns", .ofStrings k.columns), ("foreign_columns", .ofStrings k.foreignColumns),
    ("delete_rule", .int k.deleteRule), ("update_rule", .int k.updateRule),
    ("deferrability", .int k.deferrability)]

end Resync
