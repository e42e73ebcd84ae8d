import Stencil.FileTree
/-!
# Stencil.Proofs.Paths -- where paths lead

A path leads to a place of the file tree, counted from the root. A normal path first goes up and then
only down, so the place of a path that ends in a name is one below the place of its parent. The paths
for which this fails lead to a directory above the working directory.
-/

namespace Stencil

namespace Path

/-! ## Steps up -/

section Resolving

variable {absolute : Bool} {n m : String} {so ns : List String}

theorem resolve_of_name (h : n ≠ above) :
    resolve absolute so (n :: ns) = resolve absolute (n :: so) ns := by
  simp [resolve, h]

theorem resolve_above_nil :
    resolve absolute [] (above :: ns) = resolve absolute (if absolute then [] else [above]) ns := by
  simp [resolve]

theorem resolve_above_above :
    resolve absolute (above :: so) (above :: ns) = resolve absolute (above :: above :: so) ns := by
  simp [resolve]

theorem resolve_above_of_name (h : m ≠ above) :
    resolve absolute (m :: so) (above :: ns) = resolve absolute so ns := by
  simp [resolve, h]

end Resolving

/-- A row of names that takes no step up behind any other name. -/
def Straight (names : List String) : Prop := names.Pairwise fun n m => m = above → n = above

theorem straight_concat {names : List String} {n : String} :
    Straight (names ++ [n]) ↔ Straight names ∧ (n = above → ∀ m ∈ names, m = above) := by
  rw [Straight, List.pairwise_append]
  constructor
  · rintro ⟨h, _, hn⟩
    exact ⟨h, fun habove m hm => hn m hm n (List.mem_singleton_self n) habove⟩
  · rintro ⟨h, hn⟩
    refine ⟨h, List.pairwise_singleton _ _, fun m hm k hk habove => ?_⟩
    obtain rfl := List.mem_singleton.mp hk
    exact hn habove m hm

/-- What `resolve` keeps is straight, when what it has kept so far is. -/
theorem straight_resolve (absolute : Bool) (ns : List String) :
    ∀ so : List String, Straight so.reverse → Straight (resolve absolute so ns) := by
  induction ns with
  | nil => exact fun so h => h
  | cons n ns ih =>
    intro so h
    by_cases hn : n = above
    · subst hn
      cases so with
      | nil =>
        rw [resolve_above_nil]
        refine ih _ ?_
        split
        · exact List.Pairwise.nil
        · exact List.pairwise_singleton _ _
      | cons m rest =>
        by_cases hm : m = above
        · subst hm
          rw [resolve_above_above]
          refine ih _ ?_
          rw [List.reverse_cons, straight_concat]
          refine ⟨h, fun _ k hk => ?_⟩
          rw [List.reverse_cons, straight_concat] at h
          rw [List.reverse_cons, List.mem_append, List.mem_singleton] at hk
          rcases hk with hk | rfl
          · exact h.2 rfl k hk
          · rfl
        · rw [resolve_above_of_name hm]
          rw [List.reverse_cons, straight_concat] at h
          exact ih rest h.1
    · rw [resolve_of_name hn]
      refine ih (n :: so) ?_
      rw [List.reverse_cons, straight_concat]
      exact ⟨h, fun habove => absurd habove hn⟩

/-- Above a root there is nothing, so no step up is kept below one. -/
theorem above_not_mem_resolve (ns : List String) :
    ∀ so : List String, above ∉ so → above ∉ resolve true so ns := by
  induction ns with
  | nil =>
    intro so h
    rwa [resolve, List.mem_reverse]
  | cons n ns ih =>
    intro so h
    by_cases hn : n = above
    · subst hn
      cases so with
      | nil =>
        rw [resolve_above_nil]
        exact ih _ h
      | cons m rest =>
        have hm : m ≠ above := fun hm => h (hm ▸ List.mem_cons_self)
        rw [resolve_above_of_name hm]
        exact ih rest fun hrest => h (List.mem_cons_of_mem m hrest)
    · rw [resolve_of_name hn]
      refine ih (n :: so) fun hmem => ?_
      rcases List.mem_cons.mp hmem with hmem | hmem
      · exact hn hmem.symm
      · exact h hmem

/-- Names without steps up are kept. -/
theorem resolve_append_of_not_mem (absolute : Bool) (us : List String) :
    ∀ (ns so : List String), above ∉ ns →
      resolve absolute so (ns ++ us) = resolve absolute (ns.reverse ++ so) us := by
  intro ns
  induction ns with
  | nil => exact fun so _ => rfl
  | cons n ns ih =>
    intro so h
    have hn : n ≠ above := fun hn => h (hn ▸ List.mem_cons_self)
    rw [List.cons_append, resolve_of_name hn, ih (n :: so) fun hns => h (List.mem_cons_of_mem n hns),
      List.reverse_cons, List.append_assoc, List.singleton_append]

theorem resolve_concat (absolute : Bool) {n : String} (hn : n ≠ above) (ns : List String) :
    ∀ so : List String, resolve absolute so (ns ++ [n]) = resolve absolute so ns ++ [n] := by
  induction ns with
  | nil =>
    intro so
    rw [List.nil_append, resolve_of_name hn]
    exact List.reverse_cons
  | cons k ns ih =>
    intro so
    rw [List.cons_append]
    by_cases hk : k = above
    · subst hk
      cases so with
      | nil => rw [resolve_above_nil, resolve_above_nil, ih]
      | cons m rest =>
        by_cases hm : m = above
        · subst hm
          rw [resolve_above_above, resolve_above_above, ih]
        · rw [resolve_above_of_name hm, resolve_above_of_name hm, ih]
    · rw [resolve_of_name hk, resolve_of_name hk, ih]

/-- Steps up lead to a place above. -/
theorem resolve_on_way (us : List String) (hus : ∀ u ∈ us, u = above) :
    ∀ so : List String, above ∉ so → resolve true so us <+: so.reverse := by
  induction us with
  | nil => exact fun so _ => List.prefix_refl _
  | cons u us ih =>
    intro so h
    obtain rfl := hus u List.mem_cons_self
    have hus' : ∀ u ∈ us, u = above := fun u hu => hus u (List.mem_cons_of_mem _ hu)
    cases so with
    | nil =>
      rw [resolve_above_nil]
      exact ih hus' [] h
    | cons m rest =>
      have hm : m ≠ above := fun hm => h (hm ▸ List.mem_cons_self)
      rw [resolve_above_of_name hm, List.reverse_cons]
      exact (ih hus' rest fun hrest => h (List.mem_cons_of_mem m hrest)).trans
        (List.prefix_append _ _)

/-! ## Places of normal paths -/

/-- A path that goes up only at its start, and not at all below a root. -/
structure Normal (p : Path) : Prop where
  straight : Straight p.names
  rooted : p.isAbsolute → above ∉ p.names

theorem normal_isNormal (p : Path) : Normal p.normal where
  straight := straight_resolve _ _ [] List.Pairwise.nil
  rooted h := by
    have habsolute : p.isAbsolute = true := h
    rw [normal, habsolute]
    exact above_not_mem_resolve _ [] List.not_mem_nil

theorem Normal.parent {p : Path} (h : Normal p) : Normal p.parent where
  straight := List.Pairwise.sublist (List.dropLast_sublist _) h.straight
  rooted habsolute hmem := h.rooted habsolute (List.dropLast_subset _ hmem)

theorem parent_shorter {p : Path} {n : String} (hn : n ∈ p.names) :
    p.parent.names.length < p.names.length := by
  have hpos := List.length_pos_of_mem hn
  rw [parent, List.length_dropLast]
  omega

end Path

namespace Filing

/-- Where the working directory is: below a root, by names alone. -/
structure Grounded (working : Path) : Prop where
  absolute : working.isAbsolute = true
  descends : Path.above ∉ working.names

/-- The names passed before those of a path, the last one first. -/
def passed (working p : Path) : List String := if p.isAbsolute then [] else working.names.reverse

theorem Grounded.not_mem_passed {working : Path} (hw : Grounded working) (p : Path) :
    Path.above ∉ passed working p := by
  rw [passed]
  split
  · exact List.not_mem_nil
  · exact fun h => hw.descends (List.mem_reverse.mp h)

theorem place_eq {working : Path} (hw : Grounded working) (p : Path) :
    place working p = Path.resolve true (passed working p) p.names := by
  by_cases hp : p.isAbsolute = true
  · rw [place, Path.absolute, Path.join, if_pos hp, Path.normal, hp, passed, if_pos hp]
  · rw [place, Path.absolute, Path.join, if_neg hp, Path.normal, passed, if_neg hp]
    show Path.resolve working.isAbsolute [] (working.names ++ p.names) = _
    rw [hw.absolute, Path.resolve_append_of_not_mem _ _ _ _ hw.descends, List.append_nil]

theorem passed_on_way (working p : Path) : (passed working p).reverse <+: working.names := by
  rw [passed]
  split
  · exact List.nil_prefix
  · exact ⟨[], by rw [List.append_nil, List.reverse_reverse]⟩

/-- A normal path leads to a place below that of its parent, or else to a place on the way to the
working directory. -/
theorem place_cases {working p : Path} (hw : Grounded working) (hp : p.Normal) :
    (∃ n ∈ p.names, place working p = place working p.parent ++ [n]) ∨
      place working p <+: working.names := by
  have hpassed := hw.not_mem_passed p
  rcases List.eq_nil_or_concat p.names with hnil | ⟨ns, n, hconcat⟩
  · right
    rw [place_eq hw, hnil]
    exact passed_on_way working p
  · by_cases hn : n = Path.above
    · right
      subst hn
      have hall : ∀ m ∈ p.names, m = Path.above := by
        intro m hm
        have hstraight := hp.straight
        rw [hconcat, List.concat_eq_append, Path.straight_concat] at hstraight
        rw [hconcat, List.concat_eq_append, List.mem_append, List.mem_singleton] at hm
        rcases hm with hm | rfl
        · exact hstraight.2 rfl m hm
        · rfl
      rw [place_eq hw]
      exact (Path.resolve_on_way _ hall _ hpassed).trans (passed_on_way working p)
    · left
      refine ⟨n, by rw [hconcat]; simp, ?_⟩
      have hparent : p.parent.names = ns := by
        rw [Path.parent, hconcat, List.concat_eq_append]
        exact List.dropLast_concat
      rw [place_eq hw, place_eq hw, hparent, hconcat, List.concat_eq_append,
        Path.resolve_concat _ hn]
      rfl

end Filing

end Stencil
