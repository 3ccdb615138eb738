import Mathlib.Data.List.Induction
import DetectorReadout.Proofs.StoreFrame

/-!
# The store as a write-once map

Calls that add collections are made to a store one after another, and each of them succeeds or is refused. There is at most
one successful call for each name, and its collection is what stands under the name (`Filling.IsWriteOnce`). A new store has
this property, one call keeps it (`Filling.IsWriteOnce.step`), and so it holds after any sequence of calls
(`Filling.isWriteOnce_ofCalls`). So every answer of the store can be read off the successful calls (`Filling.Answers`), and the
successful call with a name is the first one that was made with it (`Filling.find?_added`).
-/

namespace DetectorReadout

universe u v

namespace EventStore

variable {Kind : Type u} {Collection : Kind → Type v}

/-- A call that adds a collection. -/
structure Addition (Collection : Kind → Type v) where
  /-- The name of the collection. -/
  name : String
  /-- The kind of the collection. -/
  kind : Kind
  /-- The collection. -/
  collection : Collection kind

/-- What the store answers to a call. -/
def Addition.result (a : Addition Collection) (s : EventStore Collection) : Except StoreError (EventStore Collection) :=
  s.add a.name a.kind a.collection

/-- A store with the successful calls that filled it, in the order in which they were made. -/
structure Filling (Collection : Kind → Type v) where
  /-- The store. -/
  store : EventStore Collection := .empty
  /-- The successful calls. -/
  added : List (Addition Collection) := []

namespace Filling

/-- The filling behind one more call. A refused call changes nothing. -/
def step (f : Filling Collection) (a : Addition Collection) : Filling Collection :=
  match a.result f.store with
  | .ok s => ⟨s, f.added ++ [a]⟩
  | .error _ => f

/-- The filling behind a sequence of calls, the first one made to a new store. -/
def ofCalls (calls : List (Addition Collection)) : Filling Collection := calls.foldl step {}

theorem ofCalls_concat (calls : List (Addition Collection)) (a : Addition Collection) :
    ofCalls (calls ++ [a]) = (ofCalls calls).step a := by
  rw [ofCalls, List.foldl_append]
  rfl

/-- The successful calls are those that stand under their names, one for each name. -/
structure IsWriteOnce (f : Filling Collection) : Prop where
  /-- What stands under a name was added under it, and stands there unaltered. -/
  lookup_iff : ∀ name x, f.store.lookup name = some x ↔ ⟨name, x.1, x.2⟩ ∈ f.added
  /-- No name was added twice. -/
  distinct : f.added.Pairwise fun a b => a.name ≠ b.name
  /-- No name is empty. -/
  name_ne : ∀ a ∈ f.added, a.name ≠ ""

namespace IsWriteOnce

variable {f : Filling Collection} (h : f.IsWriteOnce)

include h

/-- A name is free exactly if it was not added. -/
theorem lookup_eq_none_iff (name : String) : f.store.lookup name = none ↔ ¬∃ a ∈ f.added, a.name = name := by
  constructor
  · rintro hnone ⟨a, ha, rfl⟩
    nomatch hnone.symm.trans ((h.lookup_iff a.name ⟨a.kind, a.collection⟩).2 ha)
  · intro hfree
    cases hlookup : f.store.lookup name with
    | none => rfl
    | some x => exact absurd ⟨_, (h.lookup_iff name x).1 hlookup, rfl⟩ hfree

/-- How a call can end: the name is empty, or it was added before, or the call succeeds. -/
theorem result_cases (a : Addition Collection) :
    (a.name = "" ∧ a.result f.store = .error .emptyName) ∨
      (a.name ≠ "" ∧ (∃ b ∈ f.added, b.name = a.name) ∧ a.result f.store = .error (.duplicate a.name)) ∨
      (a.name ≠ "" ∧ (¬∃ b ∈ f.added, b.name = a.name) ∧ f.store.lookup a.name = none ∧
        a.result f.store = .ok (f.store.put a.name ⟨a.kind, a.collection⟩)) := by
  by_cases hname : a.name = ""
  · left
    refine ⟨hname, ?_⟩
    rw [Addition.result, hname]
    exact add_empty f.store a.kind a.collection
  · right
    cases hlookup : f.store.lookup a.name with
    | some x => exact Or.inl ⟨hname, ⟨_, (h.lookup_iff a.name x).1 hlookup, rfl⟩, add_of_some hname hlookup _ _⟩
    | none => exact Or.inr ⟨hname, (h.lookup_eq_none_iff a.name).1 hlookup, rfl, add_of_none hname hlookup _ _⟩

/-- One call keeps the property. -/
theorem step (a : Addition Collection) : (f.step a).IsWriteOnce := by
  rcases h.result_cases a with ⟨-, hresult⟩ | ⟨-, -, hresult⟩ | ⟨hname, hfresh, hnone, hresult⟩
  · rw [Filling.step, hresult]
    exact h
  · rw [Filling.step, hresult]
    exact h
  · rw [Filling.step, hresult]
    refine ⟨fun name x => ?_, ?_, ?_⟩
    · rw [List.mem_append, List.mem_singleton]
      by_cases hn : name = a.name
      · subst hn
        rw [lookup_put_self, ← h.lookup_iff, hnone, Option.some_inj]
        constructor
        · rintro rfl
          exact Or.inr rfl
        · rintro (hnone | heq)
          · cases hnone
          · rw [← heq]
      · rw [lookup_put_of_ne _ _ hn, h.lookup_iff]
        exact ⟨Or.inl, fun hx => hx.resolve_right fun heq => hn (congrArg Addition.name heq)⟩
    · refine List.pairwise_append.2 ⟨h.distinct, List.pairwise_singleton _ _, ?_⟩
      intro b hb c hc hbc
      rw [List.mem_singleton.1 hc] at hbc
      exact hfresh ⟨b, hb, hbc⟩
    · intro b hb
      rcases List.mem_append.1 hb with hb | hb
      · exact h.name_ne b hb
      · rw [List.mem_singleton.1 hb]
        exact hname

/-- Of two successful calls with one name, both are the same. -/
theorem eq_of_name_eq {a b : Addition Collection} (ha : a ∈ f.added) (hb : b ∈ f.added) (hname : a.name = b.name) :
    a = b := by
  obtain ⟨name, kind, c⟩ := a
  obtain ⟨name', kind', c'⟩ := b
  cases hname
  have hlookup := ((h.lookup_iff name ⟨kind, c⟩).2 ha).symm.trans ((h.lookup_iff name ⟨kind', c'⟩).2 hb)
  cases hlookup
  rfl

/-- What reading a name as a kind gives: nothing was added under it, or something of another kind, or a collection. -/
theorem get_cases [DecidableEq Kind] [ToString Kind] (name : String) (kind : Kind) :
    ((¬∃ a ∈ f.added, a.name = name) ∧ f.store.get name kind = .error (.missing name)) ∨
      ((∃ a ∈ f.added, a.name = name ∧ a.kind ≠ kind) ∧
        f.store.get name kind = .error (.otherKind name (toString kind))) ∨
      ∃ c, ⟨name, kind, c⟩ ∈ f.added ∧ f.store.get name kind = .ok c := by
  cases hlookup : f.store.lookup name with
  | none => exact Or.inl ⟨(h.lookup_eq_none_iff name).1 hlookup, get_of_none hlookup kind⟩
  | some x =>
    right
    have hadded := (h.lookup_iff name x).1 hlookup
    by_cases hkind : x.1 = kind
    · subst hkind
      exact Or.inr ⟨x.2, hadded, get_of_some hlookup⟩
    · exact Or.inl ⟨⟨_, hadded, rfl, hkind⟩, get_of_ne hlookup hkind⟩

/-- A name exists exactly if it was added. -/
theorem contains_iff (name : String) : f.store.contains name = true ↔ ∃ a ∈ f.added, a.name = name := by
  rw [contains_eq_isSome, Option.isSome_iff_ne_none, ne_eq, h.lookup_eq_none_iff, not_not]

/-- The names of the store are the added names, each once. -/
theorem names_perm : f.store.names.Perm (f.added.map Addition.name) := by
  refine (List.perm_ext_iff_of_nodup Std.ExtTreeMap.nodup_keys (List.pairwise_map.2 h.distinct)).2 fun name => ?_
  rw [List.mem_map, ← h.contains_iff name]
  exact Std.ExtTreeMap.mem_keys.trans Std.ExtTreeMap.mem_iff_contains

end IsWriteOnce

/-- A store is a write-once map after any sequence of calls. -/
theorem isWriteOnce_ofCalls (calls : List (Addition Collection)) : (ofCalls calls).IsWriteOnce := by
  induction calls using List.reverseRecOn with
  | nil =>
    have hnone : ∀ name x, ¬(ofCalls ([] : List (Addition Collection))).store.lookup name = some x := fun name x hx =>
      nomatch (lookup_empty name).symm.trans hx
    exact ⟨fun name x => iff_of_false (hnone name x) List.not_mem_nil, List.Pairwise.nil, nofun⟩
  | append_singleton calls a ih =>
    rw [ofCalls_concat]
    exact ih.step a

/-- The successful call with a name is the first one with this name, unless the name is empty. -/
theorem find?_added (calls : List (Addition Collection)) (name : String) :
    (ofCalls calls).added.find? (fun a => a.name = name) =
      if name = "" then none else calls.find? fun a => a.name = name := by
  induction calls using List.reverseRecOn with
  | nil => simp [ofCalls]
  | append_singleton calls a ih =>
    rw [ofCalls_concat, step, List.find?_append]
    rcases (isWriteOnce_ofCalls calls).result_cases a with ⟨hname, hresult⟩ | ⟨-, ⟨b, hb, hbname⟩, hresult⟩ |
      ⟨hname, -, -, hresult⟩
    · -- A call with the empty name is the first one of no other name.
      simp only [hresult, ih]
      split
      · rfl
      · rename_i hne
        have hother : ¬a.name = name := fun heq => hne (heq.symm.trans hname)
        simp [hother]
    · simp only [hresult, ih]
      by_cases heq : a.name = name
      · -- There is an earlier call with the name.
        have hfound : ((ofCalls calls).added.find? fun a => a.name = name).isSome := by
          rw [List.find?_isSome]
          exact ⟨b, hb, by simpa using hbname.trans heq⟩
        rw [ih] at hfound
        split
        · rfl
        · rename_i hne
          rw [if_neg hne] at hfound
          rw [Option.or_of_isSome hfound]
      · simp [heq]
    · simp only [hresult, List.find?_append, ih]
      split
      · rename_i hempty
        have hother : ¬a.name = name := fun heq => hname (heq.trans hempty)
        simp [hother]
      · rfl

/-- What a store answers, told by the successful calls that filled it. -/
structure Answers [DecidableEq Kind] [ToString Kind] (f : Filling Collection) : Prop where
  /-- No two successful calls had the same name. -/
  once : f.added.Pairwise fun a b => a.name ≠ b.name
  /-- The empty name is refused as such. -/
  emptyName_iff : ∀ a : Addition Collection, a.result f.store = .error .emptyName ↔ a.name = ""
  /-- A name is refused as taken exactly if it was added before, whatever the kinds. -/
  duplicate_iff : ∀ a : Addition Collection, a.result f.store = .error (.duplicate a.name) ↔ ∃ b ∈ f.added, b.name = a.name
  /-- There are no other reasons for a refusal, and a refused call changes nothing. -/
  refused : ∀ (a : Addition Collection) e, a.result f.store = .error e →
    (e = .emptyName ∨ e = .duplicate a.name) ∧ f.step a = f
  /-- Every other call is added to the successful ones. -/
  accepted : ∀ (a : Addition Collection) s, a.result f.store = .ok s → f.step a = ⟨s, f.added ++ [a]⟩
  /-- A collection is handed out exactly if it was added under the name and as the kind. -/
  get_ok_iff : ∀ name kind c, f.store.get name kind = .ok c ↔ ⟨name, kind, c⟩ ∈ f.added
  /-- A name is missing exactly if it was never added. -/
  get_missing_iff : ∀ name kind, f.store.get name kind = .error (.missing name) ↔ ¬∃ a ∈ f.added, a.name = name
  /-- A name is of another kind exactly if it was added as another kind. -/
  get_otherKind_iff : ∀ name kind,
    f.store.get name kind = .error (.otherKind name (toString kind)) ↔ ∃ a ∈ f.added, a.name = name ∧ a.kind ≠ kind
  /-- A name exists exactly if it was added. -/
  contains_iff : ∀ name, f.store.contains name = true ↔ ∃ a ∈ f.added, a.name = name
  /-- The names ascend, so no name is listed twice. -/
  names_ascending : f.store.names.Pairwise (· < ·)
  /-- The names are the added ones. -/
  names_perm : f.store.names.Perm (f.added.map Addition.name)
  /-- The size is the number of names. -/
  size_eq : f.store.size = f.store.names.length
  /-- The store is empty exactly if no call was successful. -/
  isEmpty_iff : f.store.isEmpty = true ↔ f.added = []

/-- The answers of a write-once map. -/
theorem IsWriteOnce.answers [DecidableEq Kind] [ToString Kind] {f : Filling Collection} (h : f.IsWriteOnce) : f.Answers where
  once := h.distinct
  emptyName_iff a := by
    rcases h.result_cases a with ⟨hname, hresult⟩ | ⟨hname, -, hresult⟩ | ⟨hname, -, -, hresult⟩ <;>
      simp [hresult, hname]
  duplicate_iff a := by
    rcases h.result_cases a with ⟨hname, hresult⟩ | ⟨-, hadded, hresult⟩ | ⟨-, hfresh, -, hresult⟩
    · have hnone : ¬∃ b ∈ f.added, b.name = a.name := fun ⟨b, hb, heq⟩ => h.name_ne b hb (heq.trans hname)
      simp [hresult, hnone]
    · simp [hresult, hadded]
    · simp [hresult, hfresh]
  refused a e he := by
    refine ⟨?_, by rw [Filling.step, he]⟩
    rcases h.result_cases a with ⟨-, hresult⟩ | ⟨-, -, hresult⟩ | ⟨-, -, -, hresult⟩
    · exact Or.inl (Except.error.inj (he.symm.trans hresult))
    · exact Or.inr (Except.error.inj (he.symm.trans hresult))
    · nomatch he.symm.trans hresult
  accepted a s hs := by rw [Filling.step, hs]
  get_ok_iff name kind c := by
    rcases h.get_cases name kind with ⟨hnone, hget⟩ | ⟨⟨a, ha, haname, hkind⟩, hget⟩ | ⟨c', hc', hget⟩
    · exact iff_of_false (by simp [hget]) fun hc => hnone ⟨_, hc, rfl⟩
    · exact iff_of_false (by simp [hget]) fun hc => hkind (congrArg Addition.kind (h.eq_of_name_eq ha hc haname))
    · rw [hget, Except.ok.injEq]
      constructor
      · rintro rfl
        exact hc'
      · intro hc
        cases h.eq_of_name_eq hc' hc rfl
        rfl
  get_missing_iff name kind := by
    rcases h.get_cases name kind with ⟨hnone, hget⟩ | ⟨⟨a, ha, haname, -⟩, hget⟩ | ⟨c', hc', hget⟩
    · exact iff_of_true hget hnone
    · exact iff_of_false (by simp [hget]) (not_not_intro ⟨a, ha, haname⟩)
    · exact iff_of_false (by simp [hget]) (not_not_intro ⟨_, hc', rfl⟩)
  get_otherKind_iff name kind := by
    rcases h.get_cases name kind with ⟨hnone, hget⟩ | ⟨hother, hget⟩ | ⟨c', hc', hget⟩
    · exact iff_of_false (by simp [hget]) fun ⟨a, ha, haname, _⟩ => hnone ⟨a, ha, haname⟩
    · exact iff_of_true hget hother
    · refine iff_of_false (by simp [hget]) ?_
      rintro ⟨a, ha, haname, hkind⟩
      exact hkind (congrArg Addition.kind (h.eq_of_name_eq ha hc' haname))
  contains_iff := h.contains_iff
  names_ascending := by
    have hordered : f.store.names.Pairwise fun a b => compare a b = .lt := Std.ExtTreeMap.ordered_keys
    exact hordered.imp fun hlt => compareOfLessAndEq_eq_lt.1 hlt
  names_perm := h.names_perm
  size_eq := Std.ExtTreeMap.length_keys.symm
  isEmpty_iff := by
    have hnames : f.store.isEmpty = f.store.names.isEmpty := Std.ExtTreeMap.isEmpty_keys.symm
    rw [hnames, List.isEmpty_iff, ← List.map_eq_nil_iff (f := Addition.name)]
    exact ⟨fun hnil => (hnil ▸ h.names_perm).nil_eq.symm, fun hnil => (hnil ▸ h.names_perm).eq_nil⟩

/-- After any sequence of calls to a new store, what the store answers is told by the successful ones, and the successful one
with a name is the first call with this name. -/
theorem answers_ofCalls [DecidableEq Kind] [ToString Kind] (calls : List (Addition Collection)) :
    (ofCalls calls).Answers ∧
      ∀ name, (ofCalls calls).added.find? (fun a => a.name = name) =
        if name = "" then none else calls.find? fun a => a.name = name :=
  ⟨(isWriteOnce_ofCalls calls).answers, find?_added calls⟩

end Filling

end EventStore

end DetectorReadout
