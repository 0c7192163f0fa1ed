import ApiReference.Proofs.Text.Run
import ApiReference.Schema.Definition

/-!
# The stable order of definitions

Definitions are listed by their keys. A key is an end of a name, from its first capital on where it
has one, so that different names can have one key: `getMe` and `Me` do.
An arrangement of definitions is *stable* when those with one key stand in the order in which they
were given. There is exactly one stable arrangement by keys, and sorting gives it.

## Main definitions

* `IsSortKey`: the key of a name.
* `Definition.IsStablySorted`: the arrangement of some definitions by their keys.

## Main results

* `isSortKey_iff`: definitions are sorted by the keys of their names.
* `Definition.isStablySorted_sorted`: sorted definitions are arranged by their keys.
* `Definition.eq_of_filter_key_eq`, `Definition.IsStablySorted.unique`: there is only one such
  arrangement.
* `Definition.filter_sorted`, `Definition.sorted_sublist_sorted`: definitions can be left out before
  the sorting or behind it.
-/

namespace ApiReference.Schema

/-! ### Keys -/

/-- A name has a key: all that is behind the characters in front of its first capital, its last
character when it has no capital, and nothing when it is empty. -/
inductive IsSortKey : Text → Text → Prop
  | empty : IsSortKey [] []
  | capital {lead : Text} {c : Char} (rest : Text)
      (hlead : ∀ d ∈ lead, Unicode.isUppercase d = false) (hc : Unicode.isUppercase c) :
      IsSortKey (lead ++ c :: rest) (c :: rest)
  | last {lead : Text} {c : Char} (h : ∀ d ∈ lead ++ [c], Unicode.isUppercase d = false) :
      IsSortKey (lead ++ [c]) [c]

theorem isSortKey_sortKey (name : Text) : IsSortKey name (sortKey name) := by
  have hbefore : ∀ d ∈ name.takeWhile (!Unicode.isUppercase ·), Unicode.isUppercase d = false :=
    fun d hd ↦ by simpa using List.mem_takeWhile_imp hd
  rw [sortKey]
  cases hkey : name.dropWhile (!Unicode.isUppercase ·) with
  | nil =>
    have hnone : ∀ d ∈ name, Unicode.isUppercase d = false := by
      simpa [List.dropWhile_eq_nil_iff] using hkey
    rcases List.eq_nil_or_concat name with rfl | ⟨lead, c, rfl⟩
    · exact .empty
    · rw [List.concat_eq_append] at hnone ⊢
      simpa using IsSortKey.last hnone
  | cons c rest =>
    have hname : name.takeWhile (!Unicode.isUppercase ·) ++ c :: rest = name := by
      rw [← hkey, List.takeWhile_append_dropWhile]
    have hc : Unicode.isUppercase c := by
      have hhead := List.head?_dropWhile_not (!Unicode.isUppercase ·) name
      simpa [hkey] using hhead
    have hcapital := IsSortKey.capital rest hbefore hc
    rwa [hname] at hcapital

/-- Every name has exactly one key, and this is the one that is sorted by. -/
theorem isSortKey_iff {name key : Text} : IsSortKey name key ↔ key = sortKey name := by
  constructor
  · intro h
    cases h with
    | empty => rfl
    | capital rest hlead hc =>
      rw [sortKey, Text.dropWhile_append_stop (by simpa using hlead) (by simpa using hc)]
    | @last lead c hnone =>
      have hkey : (lead ++ [c]).dropWhile (!Unicode.isUppercase ·) = [] :=
        List.dropWhile_eq_nil_iff.2 (by simpa using hnone)
      simp [sortKey, hkey]
  · rintro rfl
    exact isSortKey_sortKey name

example : sortKey "getMe" = sortKey "Me" := by decide +kernel

end ApiReference.Schema

namespace ApiReference.Schema.Definition

variable {definitions result result' : List Definition}

/-- The definitions `result` are the definitions `definitions` in the order of their keys, and those
with one key have kept their order. -/
structure IsStablySorted (definitions result : List Definition) : Prop where
  perm : result.Perm definitions
  ordered : result.Pairwise fun a b ↦ Text.le (sortKey a.name) (sortKey b.name)
  stable : ∀ key, result.filter (sortKey ·.name = key) = definitions.filter (sortKey ·.name = key)

/-- Sorting gives the stable arrangement. -/
theorem isStablySorted_sorted (definitions : List Definition) :
    IsStablySorted definitions (sorted definitions) where
  perm := sorted_perm definitions
  ordered := pairwise_sorted definitions
  stable key := by
    have hpairwise : (definitions.filter (sortKey ·.name = key)).Pairwise fun a b ↦ keyLE a b := by
      refine List.pairwise_of_forall_mem_list fun a ha b hb ↦ ?_
      simp only [List.mem_filter, decide_eq_true_eq] at ha hb
      rw [keyLE, ha.2, hb.2]
      exact Text.le_refl key
    have hsublist : (definitions.filter (sortKey ·.name = key)).Sublist (sorted definitions) :=
      List.sublist_mergeSort keyLE_trans keyLE_total hpairwise List.filter_sublist
    have hfilter := hsublist.filter (sortKey ·.name = key)
    rw [List.filter_filter] at hfilter
    simp only [Bool.and_self] at hfilter
    exact (hfilter.eq_of_length ((sorted_perm definitions).filter _).length_eq.symm).symm

/-! ### Definitions known key by key -/

/-- What stands among other definitions key by key has no other members. -/
theorem mem_of_filter_key_sublist {a : Definition}
    (h : ∀ key, (result.filter (sortKey ·.name = key)).Sublist
      (result'.filter (sortKey ·.name = key)))
    (ha : a ∈ result) : a ∈ result' := by
  have hfilter : a ∈ result.filter (sortKey ·.name = sortKey a.name) := by simp [ha]
  exact (List.mem_filter.1 ((h _).subset hfilter)).1

/-- The first definition of the least key comes first of all. -/
theorem exists_eq_cons_of_filter_key_eq_cons {b : Definition} {more : List Definition}
    (hresult : result.Pairwise fun a b ↦ keyLE a b) (hleast : ∀ a ∈ result, keyLE b a)
    (hmore : result.filter (sortKey ·.name = sortKey b.name) = b :: more) :
    ∃ tail, result = b :: tail := by
  have hb : b ∈ result := (List.mem_filter.1 (hmore ▸ List.mem_cons_self)).1
  cases result with
  | nil => exact absurd hb List.not_mem_nil
  | cons a tail =>
    have hab : keyLE a b := by
      rcases List.mem_cons.1 hb with rfl | hb
      · exact Text.le_refl _
      · exact List.rel_of_pairwise_cons hresult hb
    have hkey : sortKey a.name = sortKey b.name :=
      Text.le_antisymm hab (hleast a List.mem_cons_self)
    rw [List.filter_cons_of_pos (by simpa using hkey)] at hmore
    exact ⟨tail, by rw [(List.cons.inj hmore).1]⟩

/-- Definitions in the order of their keys stand among others when those of every key do. -/
theorem sublist_of_filter_key_sublist (hresult : result.Pairwise fun a b ↦ keyLE a b)
    (hresult' : result'.Pairwise fun a b ↦ keyLE a b)
    (h : ∀ key, (result.filter (sortKey ·.name = key)).Sublist
      (result'.filter (sortKey ·.name = key))) :
    result.Sublist result' := by
  induction result' generalizing result with
  | nil =>
    have hnil := List.eq_nil_iff_forall_not_mem.2 fun a ha ↦
      List.not_mem_nil (mem_of_filter_key_sublist h ha)
    exact hnil ▸ List.nil_sublist []
  | cons b tail' ih =>
    have hother : ∀ key, sortKey b.name ≠ key → (result.filter (sortKey ·.name = key)).Sublist
        (tail'.filter (sortKey ·.name = key)) := fun key hkey ↦ by
      simpa [hkey] using h key
    have hfirst := h (sortKey b.name)
    rw [List.filter_cons_of_pos (by simp)] at hfirst
    -- Either `b` is left out, or it is the first of the definitions with its key.
    rcases List.sublist_cons_iff.1 hfirst with hout | ⟨more, hmore, htail⟩
    · refine (ih hresult hresult'.of_cons fun key ↦ ?_).cons b
      by_cases hkey : sortKey b.name = key
      · exact hkey ▸ hout
      · exact hother key hkey
    · have hleast : ∀ a ∈ result, keyLE b a := fun a ha ↦ by
        rcases List.mem_cons.1 (mem_of_filter_key_sublist h ha) with rfl | ha
        · exact Text.le_refl _
        · exact List.rel_of_pairwise_cons hresult' ha
      obtain ⟨tail, rfl⟩ := exists_eq_cons_of_filter_key_eq_cons hresult hleast hmore
      rw [List.filter_cons_of_pos (by simp)] at hmore
      obtain rfl := (List.cons.inj hmore).2
      refine (ih hresult.of_cons hresult'.of_cons fun key ↦ ?_).cons_cons b
      by_cases hkey : sortKey b.name = key
      · exact hkey ▸ htail
      · simpa [hkey] using hother key hkey

/-- Definitions in the order of their keys are known from those of every single key. -/
theorem eq_of_filter_key_eq (hresult : result.Pairwise fun a b ↦ keyLE a b)
    (hresult' : result'.Pairwise fun a b ↦ keyLE a b)
    (h : ∀ key, result.filter (sortKey ·.name = key) = result'.filter (sortKey ·.name = key)) :
    result = result' := by
  have hforward : result.Sublist result' :=
    sublist_of_filter_key_sublist hresult hresult' fun key ↦ h key ▸ List.Sublist.refl _
  have hbackward : result'.Sublist result :=
    sublist_of_filter_key_sublist hresult' hresult fun key ↦ h key ▸ List.Sublist.refl _
  exact hforward.eq_of_length_le hbackward.length_le

/-- There is only one stable arrangement. -/
theorem IsStablySorted.unique (h : IsStablySorted definitions result)
    (h' : IsStablySorted definitions result') : result = result' :=
  eq_of_filter_key_eq h.ordered h'.ordered fun key ↦ (h.stable key).trans (h'.stable key).symm

/-- Sorting gives the only stable arrangement. -/
theorem isStablySorted_iff : IsStablySorted definitions result ↔ result = sorted definitions :=
  ⟨fun h ↦ h.unique (isStablySorted_sorted definitions),
    fun h ↦ h ▸ isStablySorted_sorted definitions⟩

/-! ### Leaving definitions out -/

/-- Leaving definitions out before the sorting or behind it makes no difference. -/
theorem filter_sorted (p : Definition → Bool) (definitions : List Definition) :
    (sorted definitions).filter p = sorted (definitions.filter p) := by
  have hcomm : ∀ (key : Text) (l : List Definition), (l.filter p).filter (sortKey ·.name = key) =
      (l.filter (sortKey ·.name = key)).filter p := fun key l ↦ by
    simp only [List.filter_filter, Bool.and_comm]
  have hsorted := isStablySorted_sorted definitions
  refine isStablySorted_iff.1 ⟨hsorted.perm.filter p, hsorted.ordered.filter p, fun key ↦ ?_⟩
  rw [hcomm, hsorted.stable key, hcomm]

/-- Definitions that stand among others do so when both are sorted. -/
theorem sorted_sublist_sorted (h : definitions.Sublist result) :
    (sorted definitions).Sublist (sorted result) := by
  refine sublist_of_filter_key_sublist (pairwise_sorted _) (pairwise_sorted _) fun key ↦ ?_
  rw [(isStablySorted_sorted definitions).stable, (isStablySorted_sorted result).stable]
  exact h.filter _

end ApiReference.Schema.Definition
