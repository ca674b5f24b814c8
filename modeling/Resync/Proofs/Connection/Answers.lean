import Resync.Proofs.Connection.Access

/-! # What a connection answers

Introspection and probes are answered from the schema of the backend alone, whatever the
connection was asked before. A probe leaves its trace in the connection, but in nothing that
tells whether it is closed or can be.
-/
namespace Resync

namespace Schema

def filled (s : Schema) (flags : List Bool) (column : Nat) : Except Error Bool :=
  if s.fails "is_auto_increment" then .error (.dataAccess (.call "is_auto_increment"))
  else
    match flags[column]? with
    | some filled => .ok filled
    | none => .error (.dataAccess (.columnOutOfRange column))

def probed (s : Schema) (relation : String) : Except Error Bool :=
  if s.fails "execute_query" then .error (.dataAccess (.call "execute_query"))
  else
    match Access.answer? s (Access.emptySelect relation) with
    | none => .error (.dataAccess (.noRelation (Access.emptySelect relation)))
    | some flags => (List.range flags.length).anyM (s.filled flags)

/-- What calls come to that answer `a`, if the schema makes none of them fail. -/
def reply {α : Type} (s : Schema) (calls : List String) (a : α) : Except Error α :=
  match calls.find? s.fails with
  | some call => .error (.dataAccess (.call call))
  | none => .ok a

theorem reply_eq_ok_iff {α : Type} {s : Schema} {calls : List String} {a b : α} :
    s.reply calls a = .ok b ↔ (∀ call ∈ calls, s.fails call = false) ∧ a = b := by
  have hcalm : calls.find? s.fails = none ↔ ∀ call ∈ calls, s.fails call = false := by
    simp only [List.find?_eq_none, Bool.not_eq_true]
  rw [← hcalm, reply]
  cases calls.find? s.fails with
  | some call => simp
  | none => simp

end Schema

def Connection.face (k : Connection) : Connection := { k with queries := [], sets := [], openSets := 0 }

/-- The connection after a probe: the query is on record, and its result set is closed again. -/
def Connection.probed (k : Connection) (relation : String) : Connection :=
  if k.schema.fails "execute_query" then k
  else
    match Access.answer? k.schema (Access.emptySelect relation) with
    | none => { k with queries := k.queries ++ [Access.emptySelect relation] }
    | some flags =>
      { k with
        queries := k.queries ++ [Access.emptySelect relation]
        sets := k.sets ++ [{ flags := flags, closed := true }] }

def Connection.Queried (k k' : Connection) : Prop := k'.face = k.face

theorem Connection.Queried.keeps {k k' : Connection} (h : k.Queried k') : k.Keeps k' := by
  have hface : k'.face = k.face := h
  have hschema := congrArg Connection.schema hface
  have hclose := congrArg Connection.failClose hface
  have hstate := congrArg Connection.failState hface
  have hclosed := congrArg Connection.closed hface
  exact ⟨hschema, hclose, hstate, hclosed.trans⟩

instance : Std.Refl Connection.Queried := ⟨fun _ => rfl⟩

instance : Trans Connection.Queried Connection.Queried Connection.Queried :=
  ⟨fun h h' => Eq.trans h' h⟩

namespace Access

variable {α β : Type}

theorem on_check (k : Connection) (call : String) :
    on k (check call) = (if k.schema.fails call then .error (.dataAccess (.call call)) else .ok (), k) := by
  unfold check
  rw [on_bind]
  change on k (if k.schema.fails call then fail (.call call) else pure ()) = _
  cases k.schema.fails call with
  | true => rfl
  | false => rfl

/-- The calls are made one after another, and the answer comes from the schema alone; the
connection is left as it is. -/
def Tells (a : Access α) (calls : Schema → List String) (f : Schema → α) : Prop :=
  ∀ k, on k a = (k.schema.reply (calls k.schema) (f k.schema), k)

section Telling

variable {a : Access α} {calls calls' : Schema → List String} {f f' : Schema → α}

theorem tells_pure (x : α) : Tells (pure x) (fun _ => []) (fun _ => x) := fun _ => rfl

theorem tells_read (f : Schema → α) : Tells (read f) (fun _ => []) f := fun _ => rfl

theorem tells_check (call : String) : Tells (check call) (fun _ => [call]) (fun _ => ()) := by
  intro k
  rw [on_check, Schema.reply, List.find?_singleton]
  cases k.schema.fails call with
  | true => rfl
  | false => rfl

theorem Tells.bind {g : α → Access β} {more : α → Schema → List String} {h : α → Schema → β}
    (ha : Tells a calls f) (hg : ∀ x, Tells (g x) (more x) (h x)) :
    Tells (a >>= g) (fun s => calls s ++ more (f s) s) (fun s => h (f s) s) := by
  intro k
  rw [on_bind, ha k]
  unfold Schema.reply
  rw [List.find?_append]
  cases (calls k.schema).find? k.schema.fails with
  | some call => rfl
  | none => exact hg (f k.schema) k

theorem Tells.map {g : α → β} (ha : Tells a calls f) : Tells (g <$> a) calls (fun s => g (f s)) := by
  intro k
  rw [on_map, ha k]
  unfold Schema.reply
  cases (calls k.schema).find? k.schema.fails with
  | some call => rfl
  | none => rfl

theorem Tells.congr (ha : Tells a calls f) (hc : ∀ s, calls s = calls' s) (hf : ∀ s, f s = f' s) :
    Tells a calls' f' := by
  intro k
  rw [ha k, hc, hf]

theorem tells_ask (call : String) (f : Schema → α) : Tells (ask call f) (fun _ => [call]) f :=
  (tells_check call).bind fun _ => tells_read f

theorem tells_mapM {g : α → Access β} {h : α → Schema → β} (hg : ∀ x, Tells (g x) calls (h x))
    (l : List α) : Tells (l.mapM g) (fun s => l.flatMap fun _ => calls s) (fun s => l.map fun x => h x s) := by
  induction l with
  | nil => exact tells_pure []
  | cons x l ih =>
    rw [List.mapM_cons]
    refine ((hg x).bind fun _ => ih.bind fun _ => tells_pure _).congr (fun s => ?_) (fun s => rfl)
    rw [List.append_nil, List.flatMap_cons]

theorem Tells.on_eq (ha : Tells a calls f) {k : Connection}
    (hk : ∀ call ∈ calls k.schema, k.schema.fails call = false) : on k a = (.ok (f k.schema), k) := by
  rw [ha k, Schema.reply_eq_ok_iff.mpr ⟨hk, rfl⟩]

end Telling

section Probing

theorem emptySelect_inj {relation other : String} :
    emptySelect relation = emptySelect other ↔ relation = other :=
  (String.append_left_inj _).trans (String.append_right_inj _)

theorem on_executeQuery (k : Connection) (sql : String) :
    on k (executeQuery sql) =
      if k.schema.fails "execute_query" then (.error (.dataAccess (.call "execute_query")), k)
      else
        match answer? k.schema sql with
        | none => (.error (.dataAccess (.noRelation sql)), { k with queries := k.queries ++ [sql] })
        | some flags =>
          (.ok k.sets.length,
            { k with
              queries := k.queries ++ [sql]
              sets := k.sets ++ [{ flags := flags }]
              openSets := k.openSets + 1 }) := by
  unfold executeQuery
  rw [on_bind, on_check]
  cases k.schema.fails "execute_query" with
  | true => rfl
  | false =>
    change on k (modify _ >>= _) = _
    rw [on_bind]
    change on { k with queries := k.queries ++ [sql] } (get >>= _) = _
    rw [on_bind]
    change on { k with queries := k.queries ++ [sql] }
      (match answer? k.schema sql with | none => _ | some flags => _) = _
    cases answer? k.schema sql with
    | none => rfl
    | some flags => rfl

theorem on_isAutoIncrement {k : Connection} {set : Nat} {r : ResultSet} (hr : k.sets[set]? = some r)
    (i : Nat) : on k (isAutoIncrement set i) = (k.schema.filled r.flags i, k) := by
  unfold isAutoIncrement Schema.filled
  rw [on_bind, on_check]
  cases k.schema.fails "is_auto_increment" with
  | true => rfl
  | false =>
    change on k (get >>= _) = _
    rw [on_bind]
    change on k (match (k.sets[set]?).bind (·.flags[i]?) with | some b => pure b | none => _) = _
    rw [hr, Option.bind_some]
    cases r.flags[i]? with
    | none => rfl
    | some filled => rfl

theorem on_anyAutoIncrement {k : Connection} {set : Nat} {r : ResultSet} (hr : k.sets[set]? = some r) :
    on k (anyAutoIncrement set) =
      ((List.range r.flags.length).anyM (k.schema.filled r.flags), k) := by
  have hcount : on k (columnCount set) = (.ok r.flags.length, k) := by
    change (Except.ok ((k.sets[set]?).elim 0 (·.flags.length)), k) = _
    rw [hr]
    rfl
  unfold anyAutoIncrement
  rw [on_bind, hcount]
  simp only
  induction List.range r.flags.length with
  | nil => rfl
  | cons i l ih =>
    rw [List.anyM_cons, List.anyM_cons, on_bind, on_isAutoIncrement hr]
    cases k.schema.filled r.flags i with
    | error e => rfl
    | ok filled =>
      cases filled with
      | true => rfl
      | false => exact ih

theorem on_outcome (k : Connection) (a : Access α) : on k (outcome a) = (.ok (on k a).1, (on k a).2) :=
  rfl

theorem on_closeSet (k : Connection) (flags : List Bool) :
    on { k with sets := k.sets ++ [{ flags := flags }], openSets := k.openSets + 1 } (closeSet k.sets.length) =
      (.ok (), { k with sets := k.sets ++ [{ flags := flags, closed := true }] }) := by
  have hset : (k.sets ++ [({ flags := flags } : ResultSet)])[k.sets.length]? = some { flags := flags } :=
    List.getElem?_concat_length
  have hclosed : (k.sets ++ [({ flags := flags } : ResultSet)]).set k.sets.length
      { flags := flags, closed := true } = k.sets ++ [{ flags := flags, closed := true }] := by
    rw [List.set_append_right _ _ (Nat.le_refl _), Nat.sub_self, List.set_cons_zero]
  unfold closeSet
  rw [on_modify]
  simp only [hset, Bool.false_eq_true, ↓reduceIte, hclosed, Nat.add_sub_cancel]

/-- Every connection to a backend answers a probe alike, and none of them is left with an open
result set. -/
theorem on_probe (k : Connection) (relation : String) :
    on k (probe relation) = (k.schema.probed relation, k.probed relation) := by
  unfold probe Schema.probed Connection.probed
  rw [on_bind, on_executeQuery]
  cases k.schema.fails "execute_query" with
  | true => rfl
  | false =>
    cases answer? k.schema (emptySelect relation) with
    | none => rfl
    | some flags =>
      have hset : (k.sets ++ [({ flags := flags } : ResultSet)])[k.sets.length]? = some { flags := flags } :=
        List.getElem?_concat_length
      simp only [Bool.false_eq_true, ↓reduceIte]
      rw [on_bind, on_outcome, on_anyAutoIncrement hset]
      simp only
      rw [on_bind, on_closeSet { k with queries := k.queries ++ [emptySelect relation] } flags]
      cases (List.range flags.length).anyM (k.schema.filled flags) with
      | error e => rfl
      | ok found => rfl

end Probing

section Queries

theorem queried_probed (k : Connection) (relation : String) : k.Queried (k.probed relation) := by
  unfold Connection.probed
  split
  · rfl
  · split
    · rfl
    · rfl

theorem queried_probe (relation : String) : Within Connection.Queried (probe relation) := by
  intro k
  rw [on_probe]
  exact queried_probed k relation

theorem queried_autoIncrement (c : Cache) (number : Nat) (relation : String) :
    Within Connection.Queried (c.autoIncrement number relation) := by
  unfold Cache.autoIncrement
  split
  · exact within_pure _
  · refine Within.bind ?_ fun _ => within_pure _
    unfold Memo.ask
    split
    · exact within_pure _
    · exact (queried_probe relation).bind fun _ => within_pure _

theorem keeps_autoIncrement (c : Cache) (number : Nat) (relation : String) :
    Within Connection.Keeps (c.autoIncrement number relation) :=
  fun k => (queried_autoIncrement c number relation k).keeps

end Queries

end Access

namespace Memo

variable {memo : Memo} {relation : String}

theorem on_ask_known {found : Bool} (h : memo.get? relation = some found) (k : Connection) :
    Access.on k (memo.ask relation) = (.ok (found, memo), k) := by
  unfold ask
  rw [h]
  rfl

/-- What is not remembered is probed, and remembered if the probe does not fail. -/
theorem on_ask_unknown (h : memo.get? relation = none) (k : Connection) :
    Access.on k (memo.ask relation) =
      ((k.schema.probed relation).map fun found => (found, memo.insert relation found),
        k.probed relation) := by
  unfold ask
  rw [h]
  simp only
  rw [Access.on_bind, Access.on_probe]
  cases k.schema.probed relation with
  | error e => rfl
  | ok found => rfl

end Memo
end Resync
