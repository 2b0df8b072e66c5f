import Mathlib.Data.List.Nodup
import EntityMap.Proofs.KeyedList
import EntityMap.Proofs.Schema.Record
import EntityMap.Proofs.Schema.WellFormed
import EntityMap.Record.Stage

/-!
Schemas as data while they are changed. Whatever the names and ids are, each of them is there once
as values are compared, no primary key is nullable, and no table disappears, moves or is renamed.
Every change keeps that, so every operation does, also one that fails on the way.
-/

namespace EntityMap

def TableRecord.KeysNotNull (t : TableRecord) : Prop :=
  ∀ c ∈ t.columns, c.isPrimaryKey → c.isNotNull

theorem TableRecord.keysNotNull_normalize (t : TableRecord) : t.normalize.KeysNotNull := by
  intro c hc hkey
  obtain ⟨c, -, rfl⟩ := List.mem_map.mp hc
  exact Bool.or_eq_true_iff.mpr (Or.inr hkey)

theorem TableDefinition.keysNotNull_build_toRecord (d : TableDefinition) :
    d.build.1.toRecord.KeysNotNull := by
  intro c hc
  obtain ⟨x, hx, rfl⟩ := List.mem_map.mp hc
  exact (d.wellFormed_build.columns x hx).notNull

namespace SchemaRecord

variable {s s' s'' : SchemaRecord} {t : TableRecord} {r : RelationshipRecord}

/-- The names of the tables, as values are compared. -/
def names (s : SchemaRecord) : List (List Value.Token) := s.tables.map (·.name.tokens)

/-- The ids of the relationships, as values are compared. -/
def ids (s : SchemaRecord) : List (List Value.Token) := s.relationships.map (·.id.tokens)

/-- Each table name and each id is there once, and no primary key is nullable. -/
structure Stored (s : SchemaRecord) : Prop where
  names_nodup : s.names.Nodup
  ids_nodup : s.ids.Nodup
  keys : ∀ t ∈ s.tables, t.KeysNotNull

/-! ### Names and ids that are not there yet -/

theorem nodup_append_unless {κ : Type} [BEq κ] [LawfulBEq κ] {ks : List κ} (h : ks.Nodup) (k : κ) :
    (if k ∈ ks then ks else ks ++ [k]).Nodup := by
  split
  · exact h
  · next hk => exact List.concat_eq_append ▸ h.concat hk

theorem prefix_append_unless {κ : Type} [BEq κ] [LawfulBEq κ] (ks : List κ) (k : κ) :
    ks <+: if k ∈ ks then ks else ks ++ [k] := by
  split
  · exact List.prefix_rfl
  · exact List.prefix_append ks [k]

theorem any_same_iff {α : Type} {f : α → Value} {as : List α} {v : Value} :
    as.any (fun a => (f a).same v) ↔ v.tokens ∈ as.map fun a => (f a).tokens := by
  simp [Value.same]

theorem names_addTable (s : SchemaRecord) (t : TableRecord) :
    (s.addTable t).names =
      if t.name.tokens ∈ s.names then s.names else s.names ++ [t.name.tokens] := by
  rw [addTable]
  cases hi : s.tables.findIdx? (·.name.same t.name) with
  | some i =>
      have hmem : t.name.tokens ∈ s.names := by
        rw [names, ← any_same_iff, List.any_eq_true]
        obtain ⟨hlt, hsame, -⟩ := List.findIdx?_eq_some_iff_getElem.mp hi
        exact ⟨_, List.getElem_mem hlt, hsame⟩
      rw [if_pos hmem]
      exact map_set_of_findIdx?_eq_some hi
  | none =>
      have hmem : t.name.tokens ∉ s.names := by
        rw [names, ← any_same_iff, List.any_eq_true]
        rintro ⟨u, hu, hsame⟩
        exact absurd hsame (by simpa using List.findIdx?_eq_none_iff.mp hi u hu)
      rw [if_neg hmem, names, List.map_append]
      rfl

theorem ids_addRelationship (s : SchemaRecord) (r : RelationshipRecord) :
    (s.addRelationship r).ids = if r.id.tokens ∈ s.ids then s.ids else s.ids ++ [r.id.tokens] := by
  rw [addRelationship, hasRelationship]
  by_cases h : r.id.tokens ∈ s.ids
  · rw [if_pos h, if_pos (any_same_iff.mpr h)]
  · rw [if_neg h, if_neg (any_same_iff.not.mpr h), ids, List.map_append]
    rfl

theorem tables_addRelationship (s : SchemaRecord) (r : RelationshipRecord) :
    (s.addRelationship r).tables = s.tables := by
  rw [addRelationship]
  split <;> rfl

theorem relationships_addTable (s : SchemaRecord) (t : TableRecord) :
    (s.addTable t).relationships = s.relationships := by
  rw [addTable]
  split <;> rfl

theorem mem_or_eq_of_mem_addTable {u : TableRecord} (h : u ∈ (s.addTable t).tables) :
    u ∈ s.tables ∨ u = t := by
  rw [addTable] at h
  split at h
  · exact List.mem_or_eq_of_mem_set h
  · exact (List.mem_append.mp h).imp_right List.mem_singleton.mp

/-! ### Changes -/

/-- What is stored stays so, and the names of the tables stay in front. -/
structure Continues (s s' : SchemaRecord) : Prop where
  stored : s.Stored → s'.Stored
  names : s.names <+: s'.names

namespace Continues

theorem refl (s : SchemaRecord) : s.Continues s := ⟨fun h => h, List.prefix_rfl⟩

theorem trans (h : s.Continues s') (h' : s'.Continues s'') : s.Continues s'' :=
  ⟨fun hs => h'.stored (h.stored hs), h.names.trans h'.names⟩

theorem foldl {α : Type} {f : SchemaRecord → α → SchemaRecord}
    (hf : ∀ (s : SchemaRecord) a, s.Continues (f s a)) (s : SchemaRecord) (as : List α) :
    s.Continues (as.foldl f s) := by
  induction as generalizing s with
  | nil => exact refl s
  | cons a as ih => exact (hf s a).trans (ih (f s a))

theorem addTable (s : SchemaRecord) (ht : t.KeysNotNull) : s.Continues (s.addTable t) := by
  refine ⟨fun hs => ⟨?_, ?_, fun u hu => ?_⟩, ?_⟩
  · rw [names_addTable]
    exact nodup_append_unless hs.names_nodup _
  · rw [ids, relationships_addTable]
    exact hs.ids_nodup
  · exact (mem_or_eq_of_mem_addTable hu).elim (hs.keys u) fun he => he ▸ ht
  · rw [names_addTable]
    exact prefix_append_unless _ _

theorem addRelationship (s : SchemaRecord) (r : RelationshipRecord) :
    s.Continues (s.addRelationship r) := by
  have hnames : (s.addRelationship r).names = s.names := by
    rw [SchemaRecord.names, tables_addRelationship, SchemaRecord.names]
  refine ⟨fun hs => ⟨hnames ▸ hs.names_nodup, ?_, ?_⟩, hnames ▸ List.prefix_rfl⟩
  · rw [ids_addRelationship]
    exact nodup_append_unless hs.ids_nodup _
  · rw [tables_addRelationship]
    exact hs.keys

theorem removeRelationshipsFrom (s : SchemaRecord) (table : Value) :
    s.Continues (s.removeRelationshipsFrom table) := by
  refine ⟨fun hs => ⟨hs.names_nodup, ?_, hs.keys⟩, List.prefix_rfl⟩
  exact hs.ids_nodup.sublist (List.filter_sublist.map _)

/-- Marking a column leaves its table where it is, under its name. -/
theorem markAt (s : SchemaRecord) (i j : Nat) (target : ReferenceRecord) (overwrite : Bool) :
    s.Continues (s.modifyColumn i j (·.markForeignKey target overwrite)) := by
  let mark (t : TableRecord) : TableRecord :=
    { t with columns := t.columns.modify j (·.markForeignKey target overwrite) }
  have hname (t : TableRecord) : (mark t).name.tokens = id t.name.tokens := rfl
  have hnames :
      (s.modifyColumn i j (·.markForeignKey target overwrite)).names = s.names :=
    (map_modify_comm hname s.tables i).trans (List.modify_id i s.names)
  refine ⟨fun hs => ⟨hnames ▸ hs.names_nodup, hs.ids_nodup, fun u hu c hc => ?_⟩,
    hnames ▸ List.prefix_rfl⟩
  obtain hu | ⟨t, ht, rfl⟩ := mem_or_eq_of_mem_modify hu
  · exact hs.keys u hu c hc
  · obtain hc | ⟨x, hx, rfl⟩ := mem_or_eq_of_mem_modify hc
    · exact hs.keys t ht c hc
    · exact hs.keys t ht x hx

theorem addLink (overwrite : Bool) (s : SchemaRecord) (l : LinkRecord) :
    s.Continues (s.addLink overwrite l) := by
  rw [SchemaRecord.addLink]
  split
  · exact refl s
  · exact (addRelationship s _).trans (markAt _ _ _ _ _)

theorem declareTable (s : SchemaRecord) (d : TableDefinition) :
    s.Continues (s.declareTable d) := by
  have hdropped : s.Continues (if s.hasTable (.text d.build.1.name)
      then s.removeRelationshipsFrom (.text d.build.1.name) else s) := by
    split
    · exact removeRelationshipsFrom s _
    · exact refl s
  exact (hdropped.trans (addTable _ d.keysNotNull_build_toRecord)).trans
    (foldl (fun s (r : Relationship) => addRelationship s r.toRecord) _ _)

theorem declare (s : SchemaRecord) (statements : List Statement) :
    s.Continues (s.declare statements) := by
  refine foldl (fun s statement => ?_) s statements
  cases statement with
  | createTable d => exact declareTable s d
  | _ => exact refl s

end Continues

end SchemaRecord

/-! ### Operations that may fail -/

/-- Wherever the operation ends, everything that it has done continues what was there before. -/
def Store.Keeps {α : Type} (p : Store α) : Prop :=
  ∀ s : SchemaRecord, s.Continues (p.after s)

namespace Store.Keeps

open SchemaRecord

variable {α β : Type}

theorem pure (a : α) : Keeps (Pure.pure a) := Continues.refl

theorem bind {p : Store α} {f : α → Store β} (hp : p.Keeps) (hf : ∀ a, (f a).Keeps) :
    Keeps (p >>= f) := by
  intro s
  have hfirst := hp s
  unfold after at hfirst ⊢
  simp only [Bind.bind, EStateM.bind]
  cases h : p s with
  | ok a s' =>
      rw [h] at hfirst
      exact hfirst.trans (hf a s')
  | error e s' =>
      rw [h] at hfirst
      exact hfirst

theorem look (f : SchemaRecord → Except StoreError α) : (Store.look f).Keeps := by
  intro s
  unfold after Store.look
  cases f s <;> exact Continues.refl s

theorem get : Keeps MonadState.get := Continues.refl

theorem change {f : SchemaRecord → SchemaRecord} (hf : ∀ s : SchemaRecord, s.Continues (f s)) :
    Keeps (modify f) := hf

theorem forM {f : α → Store Unit} (hf : ∀ a, (f a).Keeps) (as : List α) : (as.forM f).Keeps := by
  induction as with
  | nil => exact pure ()
  | cons a as ih => exact (hf a).bind fun _ => ih

theorem addFound (overwrite : Bool)
    (link? : SchemaRecord → Except StoreError (Option LinkRecord)) :
    (Store.addFound overwrite link?).Keeps := by
  refine (look link?).bind fun found => ?_
  cases found with
  | some l => exact change fun s => Continues.addLink overwrite s l
  | none => exact pure ()

theorem markForeignKey (table column : Value) (target : ReferenceRecord) (overwrite : Bool) :
    (Store.markForeignKey table column target overwrite).Keeps := by
  refine (look _).bind fun found => ?_
  cases found with
  | some position => exact change fun s => Continues.markAt s _ _ target overwrite
  | none => exact pure ()

/-! ### Stages -/

theorem alterTable (a : TableAlteration) : (Store.alterTable a).Keeps := by
  refine (look _).bind fun found => ?_
  cases found with
  | some i => exact get.bind fun s => forM (fun _ => addFound _ _) _
  | none => exact pure ()

theorem alter (statements : List Statement) : (Store.alter statements).Keeps := by
  refine forM (fun statement => ?_) statements
  cases statement with
  | alterTable a => exact alterTable a
  | _ => exact pure ()

theorem infer : Store.infer.Keeps := by
  refine get.bind fun s => ?_
  split
  · exact forM (fun _ => addFound _ _) _
  · exact pure ()

end Store.Keeps

end EntityMap
