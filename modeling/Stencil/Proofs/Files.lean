import Mathlib.Data.List.Induction
import Stencil.Proofs.Effects
import Stencil.Proofs.Paths
/-!
# Stencil.Proofs.Files -- operations on file trees

In a file tree every entry stands in a directory, and the operations keep it so. Each operation is
told by what is found afterwards: making a directory adds the directories that are missing on the way
and nothing else, and writing a file changes one place. Which operations can be carried out depends
on kinds alone, on whether there is a file, a directory or nothing at a place; so what can be done in
a tree can be done in every tree that holds less of the same kinds.
-/

namespace Stencil

namespace FileTree

/-! ## What is found -/

theorem lookup_putIn (names q : List String) (c : Content) (es : List (List String × Content)) :
    (putIn names c es).lookup q = if q = names then some c else es.lookup q := by
  induction es with
  | nil =>
    rw [putIn, List.lookup_cons]
    by_cases h : q = names
    · simp [h]
    · have hbeq : (q == names) = false := by simpa using h
      simp [h, hbeq]
  | cons entry es ih =>
    obtain ⟨n, d⟩ := entry
    rw [putIn]
    by_cases hn : n = names
    · subst hn
      by_cases h : q = n
      · simp [h]
      · have hbeq : (q == n) = false := by simpa using h
        simp [List.lookup_cons, h, hbeq]
    · rw [if_neg (by simpa using hn), List.lookup_cons, List.lookup_cons, ih]
      by_cases h : q = n
      · have hq : q ≠ names := fun hq => hn (h.symm.trans hq)
        simp [h, hn]
      · have hbeq : (q == n) = false := by simpa using h
        simp [hbeq]

theorem find?_put_self {names : List String} (h : names ≠ []) (t : FileTree) (c : Content) :
    (t.put names c).find? names = some c := by
  rw [find?, if_neg (by simpa using h), put, lookup_putIn, if_pos rfl]

theorem find?_put_of_ne {names q : List String} (h : q ≠ names) (t : FileTree) (c : Content) :
    (t.put names c).find? q = t.find? q := by
  rw [find?, find?, put, lookup_putIn, if_neg h]

/-- Every entry stands in a directory, under a name that is not too long. -/
def WellFormed (t : FileTree) : Prop :=
  ∀ names n c, t.find? (names ++ [n]) = some c →
    t.find? names = some .directory ∧ n.utf8ByteSize ≤ nameLimit

theorem mem_of_lookup {q : List String} {c : Content} {es : List (List String × Content)}
    (h : es.lookup q = some c) : (q, c) ∈ es := by
  induction es with
  | nil => cases h
  | cons entry es ih =>
    obtain ⟨n, d⟩ := entry
    rw [List.lookup_cons] at h
    by_cases hn : q = n
    · subst hn
      rw [beq_self_eq_true] at h
      cases h
      exact List.mem_cons_self
    · rw [beq_eq_false_iff_ne.mpr hn] at h
      exact List.mem_cons_of_mem _ (ih h)

/-- A tree is well formed when each of its entries stands in a directory. -/
theorem wellFormed_of_entries {t : FileTree}
    (h : ∀ entry ∈ t.entries, t.find? entry.1.dropLast = some .directory ∧
      ∀ n ∈ entry.1, n.utf8ByteSize ≤ nameLimit) : t.WellFormed := by
  intro names n c hfound
  rw [find?, if_neg (by simp)] at hfound
  obtain ⟨hdir, hshort⟩ := h _ (mem_of_lookup hfound)
  rw [List.dropLast_concat] at hdir
  exact ⟨hdir, hshort n (by simp)⟩

/-- What is above something that is found is a directory. -/
theorem WellFormed.directory_of_append {t : FileTree} (ht : t.WellFormed) {names : List String}
    (rest : List String) (hrest : rest ≠ []) {c : Content} (h : t.find? (names ++ rest) = some c) :
    t.find? names = some .directory := by
  induction rest using List.reverseRecOn generalizing c with
  | nil => exact absurd rfl hrest
  | append_singleton rest n ih =>
    rw [← List.append_assoc] at h
    have hdir := (ht _ n c h).1
    by_cases hnil : rest = []
    · rwa [hnil, List.append_nil] at hdir
    · exact ih hnil hdir

theorem WellFormed.directory_on_way {t : FileTree} (ht : t.WellFormed) {q names : List String}
    (hq : q <+: names) (h : t.find? names = some .directory) : t.find? q = some .directory := by
  obtain ⟨rest, rfl⟩ := hq
  by_cases hrest : rest = []
  · rwa [hrest, List.append_nil] at h
  · exact ht.directory_of_append rest hrest h

theorem WellFormed.short_of_mem {t : FileTree} (ht : t.WellFormed) {names : List String}
    (h : t.find? names = some .directory) {n : String} (hn : n ∈ names) :
    n.utf8ByteSize ≤ nameLimit := by
  obtain ⟨before, after, rfl⟩ := List.append_of_mem hn
  have hdir := ht.directory_on_way (q := before ++ [n]) ⟨after, by simp⟩ h
  exact (ht before n _ hdir).2

/-! ## Reaching a place -/

/-- A place in a directory is reached. -/
theorem WellFormed.reach_ok {t : FileTree} (ht : t.WellFormed) {n : String}
    (hn : n.utf8ByteSize ≤ nameLimit) (ms : List String) :
    ∀ so, t.find? (so ++ ms) = some .directory → t.reach so (ms ++ [n]) = .ok () := by
  induction ms with
  | nil =>
    intro so _
    rw [List.nil_append, reach, if_neg (by omega)]
    rfl
  | cons m ms ih =>
    intro so h
    rw [← List.singleton_append, ← List.append_assoc] at h
    have hdir := ht.directory_on_way (List.prefix_append _ _) h
    have hm := (ht so m _ hdir).2
    rw [List.cons_append, reach, if_neg (by omega), if_neg (by simp), hdir]
    exact ih _ h

/-- Where a place is reached it is in a directory. -/
theorem directory_of_reach {t : FileTree} {n : String} (ms : List String) :
    ∀ so, t.find? so = some .directory → t.reach so (ms ++ [n]) = .ok () →
      t.find? (so ++ ms) = some .directory ∧ n.utf8ByteSize ≤ nameLimit := by
  induction ms with
  | nil =>
    intro so hso h
    rw [List.nil_append, reach] at h
    split at h
    · cases h
    · rename_i hn
      exact ⟨by rwa [List.append_nil], by omega⟩
  | cons m ms ih =>
    intro so _ h
    rw [List.cons_append, reach, if_neg (show ¬(ms ++ [n]).isEmpty = true by simp)] at h
    split at h
    · cases h
    · split at h
      · cases h
      · cases h
      · rename_i hdir
        rw [← List.singleton_append, ← List.append_assoc]
        exact ih _ hdir h

/-- Where there is no file on the way and no name too long, a place is only missed because a
directory is missing. -/
theorem missing_of_reach {t : FileTree} {trouble : FileTrouble} (ns : List String) :
    ∀ so, (∀ q b, q <+: ns → t.find? (so ++ q) ≠ some (.file b)) →
      (∀ n ∈ ns, n.utf8ByteSize ≤ nameLimit) → t.reach so ns = .error trouble →
      trouble = .missing := by
  induction ns with
  | nil =>
    intro so _ _ h
    cases h
  | cons n ns ih =>
    intro so hfree hshort h
    have hn := hshort n List.mem_cons_self
    rw [reach, if_neg (by omega)] at h
    split at h
    · cases h
    · split at h
      · cases h
        rfl
      · rename_i hfile
        exact absurd hfile (hfree [n] _ (by simp))
      · refine ih _ (fun q b hq => ?_) (fun k hk => hshort k (List.mem_cons_of_mem n hk)) h
        rw [List.append_assoc]
        exact hfree (n :: q) b (List.cons_prefix_cons.mpr ⟨rfl, hq⟩)

theorem look_of_reach {t : FileTree} {names : List String} (h : t.reach [] names = .ok ()) :
    t.look names = .ok (t.find? names) := by
  rw [look, h]
  rfl

theorem look_of_error {t : FileTree} {names : List String} {e : FileTrouble}
    (h : t.reach [] names = .error e) : t.look names = .error e := by
  rw [look, h]
  rfl

theorem look_eq_ok {t : FileTree} {names : List String} {found : Option Content}
    (h : t.look names = .ok found) : t.reach [] names = .ok () ∧ found = t.find? names := by
  rw [look] at h
  cases hreach : t.reach [] names with
  | error e =>
    rw [hreach] at h
    cases h
  | ok _ =>
    rw [hreach] at h
    cases h
    exact ⟨rfl, rfl⟩

theorem WellFormed.look_of_directory {t : FileTree} (ht : t.WellFormed) {names : List String}
    (h : t.find? names = some .directory) {n : String} (hn : n.utf8ByteSize ≤ nameLimit) :
    t.look (names ++ [n]) = .ok (t.find? (names ++ [n])) :=
  look_of_reach (ht.reach_ok hn names [] h)

theorem WellFormed.look_of_found {t : FileTree} (ht : t.WellFormed) {names : List String}
    {c : Content} (h : t.find? names = some c) : t.look names = .ok (some c) := by
  rcases List.eq_nil_or_concat names with rfl | ⟨ns, n, rfl⟩
  · rw [← h]
    rfl
  · rw [List.concat_eq_append] at h ⊢
    obtain ⟨hdir, hn⟩ := ht ns n c h
    rw [ht.look_of_directory hdir hn, h]

/-! ## Trees compared -/

/-- What stands in `t` stands in `u`, a directory as a directory and a file as a file. -/
structure Within (t u : FileTree) : Prop where
  directory : ∀ q, t.find? q = some .directory → u.find? q = some .directory
  file : ∀ q b, t.find? q = some (.file b) → ∃ b', u.find? q = some (.file b')

/-- From `t` to `u` files have been written at some places; elsewhere only directories have come
where there was nothing. -/
def Grown (written : List (List String)) (t u : FileTree) : Prop :=
  ∀ q, q ∉ written → u.find? q = t.find? q ∨ t.find? q = none ∧ u.find? q = some .directory

theorem Within.refl (t : FileTree) : Within t t := ⟨fun _ h => h, fun _ b h => ⟨b, h⟩⟩

theorem Within.trans {t u v : FileTree} (h : Within t u) (h' : Within u v) : Within t v where
  directory q hq := h'.directory q (h.directory q hq)
  file q b hq := by
    obtain ⟨b', hb'⟩ := h.file q b hq
    exact h'.file q b' hb'

theorem Grown.refl (written : List (List String)) (t : FileTree) : Grown written t t :=
  fun _ _ => .inl rfl

theorem Grown.trans {written : List (List String)} {t u v : FileTree} (h : Grown written t u)
    (h' : Grown written u v) : Grown written t v := by
  intro q hq
  rcases h q hq with hu | ⟨ht, hu⟩
  · rw [← hu]
    exact h' q hq
  · rcases h' q hq with hv | ⟨hnone, hv⟩
    · exact .inr ⟨ht, hv.trans hu⟩
    · exact .inr ⟨ht, hv⟩

theorem Grown.mono {written more : List (List String)} (hsub : written ⊆ more) {t u : FileTree}
    (h : Grown written t u) : Grown more t u :=
  fun q hq => h q fun hmem => hq (hsub hmem)

/-- Files that have not been written are the same. -/
theorem Grown.file_iff {written : List (List String)} {t u : FileTree} (h : Grown written t u)
    {q : List String} (hq : q ∉ written) {b : List UInt8} :
    u.find? q = some (.file b) ↔ t.find? q = some (.file b) := by
  rcases h q hq with heq | ⟨hnone, hdir⟩
  · rw [heq]
  · rw [hnone, hdir]
    simp

/-- Where only directories have come, all that was there is still there. -/
theorem Grown.within {t u : FileTree} (h : Grown [] t u) : Within t u where
  directory q hq := by
    rcases h q List.not_mem_nil with heq | ⟨hnone, _⟩
    · rw [heq, hq]
    · cases hnone.symm.trans hq
  file q b hq := ⟨b, (h.file_iff List.not_mem_nil).mpr hq⟩

/-! ## Putting something at a place -/

section Putting

variable {t : FileTree} {names : List String}

/-- A place where something may be put: it can be reached, and is not the root. -/
theorem concat_of_reach (h : t.reach [] names = .ok ()) (hnil : names ≠ []) :
    ∃ ns n, names = ns ++ [n] ∧ t.find? ns = some .directory ∧ n.utf8ByteSize ≤ nameLimit := by
  rcases List.eq_nil_or_concat names with rfl | ⟨ns, n, rfl⟩
  · exact absurd rfl hnil
  · rw [List.concat_eq_append] at h ⊢
    obtain ⟨hdir, hn⟩ := directory_of_reach ns [] rfl h
    exact ⟨ns, n, rfl, hdir, hn⟩

theorem WellFormed.put (ht : t.WellFormed) (hreach : t.reach [] names = .ok ()) (hnil : names ≠ [])
    {c : Content} (hc : c = .directory ∨ t.find? names ≠ some .directory) :
    (t.put names c).WellFormed := by
  obtain ⟨ns, n, rfl, hdir, hn⟩ := concat_of_reach hreach hnil
  intro q k d hd
  by_cases hself : q ++ [k] = ns ++ [n]
  · obtain ⟨rfl, hk⟩ := List.append_inj' hself rfl
    obtain rfl : k = n := by simpa using hk
    rw [find?_put_of_ne (by simp)]
    exact ⟨hdir, hn⟩
  · rw [find?_put_of_ne hself] at hd
    obtain ⟨hq, hk⟩ := ht q k d hd
    refine ⟨?_, hk⟩
    by_cases hqn : q = ns ++ [n]
    · subst hqn
      rcases hc with rfl | hc
      · exact find?_put_self hnil _ _
      · exact absurd hq hc
    · rwa [find?_put_of_ne hqn]

theorem Within.put_file (hdir : t.find? names ≠ some .directory) (b : List UInt8) :
    Within t (t.put names (.file b)) where
  directory q hq := by
    have hne : q ≠ names := fun h => hdir (h ▸ hq)
    rwa [find?_put_of_ne hne]
  file q b' hq := by
    by_cases hself : q = names
    · subst hself
      have hnil : q ≠ [] := by
        rintro rfl
        exact hdir rfl
      exact ⟨b, find?_put_self hnil _ _⟩
    · exact ⟨b', by rwa [find?_put_of_ne hself]⟩

/-- A file may be written over in a tree where a file stands at its place. -/
theorem Within.of_put_file {u : FileTree} (h : Within t u) {b' : List UInt8}
    (hfile : u.find? names = some (.file b')) (b : List UInt8) :
    Within (t.put names (.file b)) u := by
  have hnil : names ≠ [] := by
    rintro rfl
    cases hfile
  refine ⟨fun q hq => ?_, fun q d hq => ?_⟩
  · by_cases hself : q = names
    · subst hself
      cases (find?_put_self hnil t (.file b)).symm.trans hq
    · rw [find?_put_of_ne hself] at hq
      exact h.directory q hq
  · by_cases hself : q = names
    · exact ⟨b', hself ▸ hfile⟩
    · rw [find?_put_of_ne hself] at hq
      exact h.file q d hq

theorem Grown.put_directory (hnone : t.find? names = none) :
    Grown [] t (t.put names .directory) := by
  have hnil : names ≠ [] := by
    rintro rfl
    cases hnone
  intro q _
  by_cases hq : q = names
  · subst hq
    exact .inr ⟨hnone, find?_put_self hnil _ _⟩
  · exact .inl (find?_put_of_ne hq _ _)

theorem Grown.put_file (names : List String) (t : FileTree) (b : List UInt8) :
    Grown [names] t (t.put names (.file b)) := by
  intro q hq
  exact .inl (find?_put_of_ne (by simpa using hq) _ _)

end Putting

/-! ## Directories made on the way -/

/-- From `t` to `u` the directories on the way to a place, and at it, have come where there was
nothing. -/
structure Made (names : List String) (t u : FileTree) : Prop where
  on : ∀ q, q <+: names → u.find? q = some .directory
  off : ∀ q, ¬q <+: names → u.find? q = t.find? q

/-- No file stands on the way to a place or at it, and no name is too long. -/
structure Passable (names : List String) (t : FileTree) : Prop where
  free : ∀ q b, q <+: names → t.find? q ≠ some (.file b)
  short : ∀ n ∈ names, n.utf8ByteSize ≤ nameLimit

section Making

variable {t u v : FileTree} {names : List String}

theorem Passable.on_way (h : Passable names t) {q : List String} (hq : q <+: names) :
    Passable q t where
  free q' b hq' := h.free q' b (hq'.trans hq)
  short n hn := h.short n (hq.subset hn)

theorem Made.refl (ht : t.WellFormed) (h : t.find? names = some .directory) : Made names t t :=
  ⟨fun _ hq => ht.directory_on_way hq h, fun _ _ => rfl⟩

theorem Made.put (ht : t.WellFormed) {ns : List String} {n : String}
    (h : t.find? ns = some .directory) : Made (ns ++ [n]) t (t.put (ns ++ [n]) .directory) where
  on q hq := by
    by_cases hself : q = ns ++ [n]
    · subst hself
      exact find?_put_self (by simp) _ _
    · rw [find?_put_of_ne hself]
      refine ht.directory_on_way ?_ h
      rcases List.prefix_concat_iff.mp hq with hq | hq
      · exact absurd hq hself
      · exact hq
  off q hq := by
    refine find?_put_of_ne (fun hself => hq ?_) _ _
    subst hself
    exact List.prefix_refl _

theorem Made.trans {q : List String} (hq : q <+: names) (h : Made q t u) (h' : Made names u v) :
    Made names t v where
  on := h'.on
  off p hp := by
    rw [h'.off p hp, h.off p fun hpq => hp (hpq.trans hq)]

theorem Made.wellFormed (h : Made names t u) (ht : t.WellFormed)
    (hshort : ∀ n ∈ names, n.utf8ByteSize ≤ nameLimit) : u.WellFormed := by
  intro q k c hc
  by_cases hon : q ++ [k] <+: names
  · exact ⟨h.on q ((List.prefix_append q [k]).trans hon), hshort k (hon.subset (by simp))⟩
  · rw [h.off _ hon] at hc
    obtain ⟨hq, hk⟩ := ht q k c hc
    refine ⟨?_, hk⟩
    by_cases hq' : q <+: names
    · exact h.on q hq'
    · rwa [h.off q hq']

/-- Making directories bars no place. -/
theorem Made.passable {q : List String} (h : Made q t u) (hpass : Passable names t) :
    Passable names u := by
  refine ⟨fun q' b hq' hfile => ?_, hpass.short⟩
  by_cases hon : q' <+: q
  · rw [h.on q' hon] at hfile
    cases hfile
  · rw [h.off q' hon] at hfile
    exact hpass.free q' b hq' hfile

/-- Directories that are made stay in a tree that has them. -/
theorem Made.within (h : Made names t u) (hwithin : Within t v) (hv : v.WellFormed)
    (hdir : v.find? names = some .directory) : Within u v where
  directory q hq := by
    by_cases hon : q <+: names
    · exact hv.directory_on_way hon hdir
    · rw [h.off q hon] at hq
      exact hwithin.directory q hq
  file q b hq := by
    by_cases hon : q <+: names
    · rw [h.on q hon] at hq
      cases hq
    · rw [h.off q hon] at hq
      exact hwithin.file q b hq

end Making

end FileTree

/-! ## Operations -/

namespace Filing

open FileTree

section Operating

variable {working p : Path} {t u : FileTree}

theorem look_apply (working p : Path) (t : FileTree) :
    look working p t = .ok (t.look (place working p)) t := rfl

theorem checkPath_of_clean (h : holdsNull p = false) : checkPath p t = .ok () t := by
  rw [checkPath, h]
  rfl

theorem checkPath_of_null (h : holdsNull p = true) :
    checkPath p t = .error (.fault .badValue "embedded null byte") t := by
  rw [checkPath, h]
  rfl

theorem read_of_found {b : List UInt8} (ht : t.WellFormed) (hp : holdsNull p = false)
    (h : t.find? (place working p) = some (.file b)) : read working p t = .ok b t := by
  rw [read, bind_of_ok (checkPath_of_clean hp), bind_of_ok (look_apply working p t),
    ht.look_of_found h]
  rfl

theorem read_eq_ok {b : List UInt8} (h : read working p t = .ok b u) :
    u = t ∧ holdsNull p = false ∧ t.find? (place working p) = some (.file b) := by
  cases hp : holdsNull p with
  | true => cases (bind_of_error (checkPath_of_null hp)).symm.trans h
  | false =>
    rw [read, bind_of_ok (checkPath_of_clean hp), bind_of_ok (look_apply working p t)] at h
    cases hlook : t.look (place working p) with
    | error e =>
      rw [hlook] at h
      cases h
    | ok found =>
      rw [hlook] at h
      rcases found with _ | ⟨bytes⟩ | _
      · cases h
      · cases h
        exact ⟨rfl, rfl, (look_eq_ok hlook).2.symm⟩
      · cases h

theorem write_of_free {b : List UInt8} (hp : holdsNull p = false)
    (hreach : t.reach [] (place working p) = .ok ())
    (hdir : t.find? (place working p) ≠ some .directory) :
    write working p b t = .ok () (t.put (place working p) (.file b)) := by
  rw [write, bind_of_ok (checkPath_of_clean hp), bind_of_ok (look_apply working p t),
    look_of_reach hreach]
  cases hfound : t.find? (place working p) with
  | none => rfl
  | some c =>
    cases c with
    | file _ => rfl
    | directory => exact absurd hfound hdir

theorem write_eq_ok {b : List UInt8} (h : write working p b t = .ok () u) :
    holdsNull p = false ∧ t.reach [] (place working p) = .ok () ∧
      t.find? (place working p) ≠ some .directory ∧ u = t.put (place working p) (.file b) := by
  cases hp : holdsNull p with
  | true => cases (bind_of_error (checkPath_of_null hp)).symm.trans h
  | false =>
    rw [write, bind_of_ok (checkPath_of_clean hp), bind_of_ok (look_apply working p t)] at h
    cases hlook : t.look (place working p) with
    | error e =>
      rw [hlook] at h
      cases h
    | ok found =>
      obtain ⟨hreach, rfl⟩ := look_eq_ok hlook
      rw [hlook] at h
      cases hfound : t.find? (place working p) with
      | none =>
        rw [hfound] at h
        cases h
        exact ⟨rfl, hreach, nofun, rfl⟩
      | some c =>
        rw [hfound] at h
        cases c with
        | file _ =>
          cases h
          exact ⟨rfl, hreach, nofun, rfl⟩
        | directory => cases h

/-- What writing a file leaves: the file, and all else as it was. -/
structure Written (names : List String) (b : List UInt8) (t u : FileTree) : Prop where
  wellFormed : u.WellFormed
  within : Within t u
  grown : Grown [names] t u
  found : u.find? names = some (.file b)

theorem written_of_write {b : List UInt8} (ht : t.WellFormed)
    (h : write working p b t = .ok () u) : Written (place working p) b t u := by
  obtain ⟨_, hreach, hdir, rfl⟩ := write_eq_ok h
  have hnil : place working p ≠ [] := by
    intro hnil
    rw [hnil] at hdir
    exact hdir rfl
  exact ⟨ht.put hreach hnil (.inr hdir), .put_file hdir b, .put_file _ t b,
    find?_put_self hnil _ _⟩

/-- A file can be written where a larger tree has one. -/
theorem write_of_within {G : FileTree} {ns : List String} {n : String} {b' : List UInt8}
    (ht : t.WellFormed) (hG : G.WellFormed) (hwithin : Within t G) (hp : holdsNull p = false)
    (hplace : place working p = ns ++ [n]) (hdir : t.find? ns = some .directory)
    (hfile : G.find? (place working p) = some (.file b')) (b : List UInt8) :
    ∃ u, write working p b t = .ok () u ∧ Within u G := by
  have hn : n.utf8ByteSize ≤ nameLimit := (hG ns n _ (hplace ▸ hfile)).2
  have hreach : t.reach [] (place working p) = .ok () := hplace ▸ ht.reach_ok hn ns [] hdir
  refine ⟨_, write_of_free hp hreach fun h => ?_, hwithin.of_put_file hfile b⟩
  cases (hwithin.directory _ h).symm.trans hfile

/-! ## Making directories -/

theorem tryMakeDirectory_apply (working : Path) (t : FileTree) (hp : holdsNull p = false) :
    tryMakeDirectory working p t =
      match t.look (place working p) with
      | .error e => .ok (some e) t
      | .ok (some _) => .ok (some .present) t
      | .ok none => .ok none (t.put (place working p) .directory) := by
  rw [tryMakeDirectory, hp]
  show (look working p >>= _) t = _
  rw [bind_of_ok (look_apply working p t)]
  rcases t.look (place working p) with e | _ | c
  · rfl
  · rfl
  · rfl

theorem unlessDirectory_of_found (ht : t.WellFormed)
    (h : t.find? (place working p) = some .directory) (trouble : FileTrouble) :
    unlessDirectory working p trouble t = .ok () t := by
  rw [unlessDirectory, bind_of_ok (look_apply working p t), ht.look_of_found h]
  rfl

theorem unlessDirectory_eq_ok {trouble : FileTrouble}
    (h : unlessDirectory working p trouble t = .ok () u) :
    u = t ∧ t.find? (place working p) = some .directory := by
  rw [unlessDirectory, bind_of_ok (look_apply working p t)] at h
  cases hlook : t.look (place working p) with
  | error e =>
    rw [hlook] at h
    cases h
  | ok found =>
    rw [hlook] at h
    rcases found with _ | _ | _
    · cases h
    · cases h
    · cases h
      exact ⟨rfl, (look_eq_ok hlook).2.symm⟩

/-- The second try to make a directory, when those above it have been made. -/
def retry (working p : Path) : Filing Unit := do
  match ← tryMakeDirectory working p with
  | none => return
  | some .missing => throw (FileTrouble.missing.failure p)
  | some t => unlessDirectory working p t

theorem makeDirectories_of_made {fuel : Nat} (h : tryMakeDirectory working p t = .ok none u) :
    makeDirectories working (fuel + 1) p t = .ok () u := by
  rw [makeDirectories, bind_of_ok h]
  rfl

theorem makeDirectories_of_trouble {fuel : Nat} {e : FileTrouble} (he : e ≠ .missing)
    (h : tryMakeDirectory working p t = .ok (some e) t) :
    makeDirectories working (fuel + 1) p t = unlessDirectory working p e t := by
  rw [makeDirectories, bind_of_ok h]
  cases e with
  | missing => exact absurd rfl he
  | _ => rfl

theorem makeDirectories_of_missing {fuel : Nat} (hparent : p.parent ≠ p)
    (h : tryMakeDirectory working p t = .ok (some .missing) t) :
    makeDirectories working (fuel + 1) p t =
      (makeDirectories working fuel p.parent >>= fun _ => retry working p) t := by
  rw [makeDirectories, bind_of_ok h]
  show (if (p.parent == p) = true then _ else _ : Filing Unit) t = _
  rw [if_neg (by simpa using hparent)]
  rfl

theorem makeDirectories_of_root {fuel : Nat} (hparent : p.parent = p)
    (h : tryMakeDirectory working p t = .ok (some .missing) t) :
    makeDirectories working (fuel + 1) p t = .error (FileTrouble.missing.failure p) t := by
  rw [makeDirectories, bind_of_ok h]
  show (if (p.parent == p) = true then _ else _ : Filing Unit) t = _
  rw [if_pos (by simpa using hparent)]
  rfl

/-- Where the place can be looked at, the first try is the only one that is needed. -/
theorem makeDirectories_of_look {fuel : Nat} {found : Option Content} (hp : holdsNull p = false)
    (hlook : t.look (place working p) = .ok found) :
    makeDirectories working (fuel + 1) p t = retry working p t := by
  have htry := tryMakeDirectory_apply working t hp
  rw [hlook] at htry
  cases found with
  | none =>
    rw [makeDirectories_of_made htry, retry, bind_of_ok htry]
    rfl
  | some c =>
    have he : FileTrouble.present ≠ .missing := by decide
    rw [makeDirectories_of_trouble he htry, retry, bind_of_ok htry]

/-- Where the place of a path can be looked at, and no file is there, a directory can be made. -/
theorem retry_of_look {found : Option Content} (ht : t.WellFormed) (hp : holdsNull p = false)
    (hpass : Passable (place working p) t) (hlook : t.look (place working p) = .ok found) :
    ∃ u, retry working p t = .ok () u ∧ Made (place working p) t u := by
  obtain ⟨hreach, hfound⟩ := look_eq_ok hlook
  have htry := tryMakeDirectory_apply working t hp
  rw [hlook] at htry
  rcases found with _ | b | _
  · have hnil : place working p ≠ [] := by
      intro hnil
      rw [hnil] at hfound
      cases hfound
    obtain ⟨ns, n, hplace, hdir, _⟩ := concat_of_reach hreach hnil
    refine ⟨_, bind_of_ok htry, ?_⟩
    rw [hplace]
    exact .put ht hdir
  · exact absurd hfound.symm (hpass.free _ b (List.prefix_refl _))
  · have hunless := unlessDirectory_of_found ht hfound.symm .present
    exact ⟨t, (bind_of_ok htry).trans hunless, .refl ht hfound.symm⟩

/-- A place that nothing bars can be looked at, or there is a directory missing on the way to it. -/
theorem look_of_passable (hpass : Passable (place working p) t) :
    (∃ found, t.look (place working p) = .ok found) ∨
      t.look (place working p) = .error .missing := by
  cases hreach : t.reach [] (place working p) with
  | ok _ => exact .inl ⟨_, look_of_reach hreach⟩
  | error e =>
    obtain rfl := missing_of_reach (place working p) [] (fun q b hq => hpass.free q b hq)
      hpass.short hreach
    exact .inr (look_of_error hreach)

theorem holdsNull_parent (hp : holdsNull p = false) : holdsNull p.parent = false := by
  rw [holdsNull, List.any_eq_false] at hp ⊢
  intro n hn
  exact hp n (List.dropLast_subset _ hn)

/-- **A directory can be made where nothing stands in the way**, and exactly the directories on the
way to it are made. -/
theorem makeDirectories_of_passable (hw : Grounded working) (fuel : Nat) :
    ∀ {p : Path} {t : FileTree}, p.Normal → p.names.length < fuel → holdsNull p = false →
      t.WellFormed → t.find? working.names = some .directory → Passable (place working p) t →
      ∃ u, makeDirectories working fuel p t = .ok () u ∧ Made (place working p) t u := by
  induction fuel with
  | zero => exact fun _ hlength => absurd hlength (Nat.not_lt_zero _)
  | succ fuel ih =>
    intro p t hnormal hlength hp ht hworking hpass
    rcases look_of_passable hpass with ⟨found, hlook⟩ | hlook
    · rw [makeDirectories_of_look hp hlook]
      exact retry_of_look ht hp hpass hlook
    · have htry := tryMakeDirectory_apply working t hp
      rw [hlook] at htry
      rcases place_cases hw hnormal with ⟨n, hn, hplace⟩ | hway
      -- The directory above is missing, or one above that: it is made first.
      · have hshorter := Path.parent_shorter hn
        have hparent : p.parent ≠ p := by
          intro h
          rw [h] at hshorter
          exact Nat.lt_irrefl _ hshorter
        have hup : place working p.parent <+: place working p := hplace ▸ List.prefix_append _ _
        obtain ⟨t₁, hrun, hmade⟩ := ih hnormal.parent (by omega) (holdsNull_parent hp) ht hworking
          (hpass.on_way hup)
        have ht₁ := hmade.wellFormed ht (hpass.on_way hup).short
        have hlook₁ : t₁.look (place working p) = .ok (t₁.find? (place working p)) := by
          rw [hplace]
          exact ht₁.look_of_directory (hmade.on _ (List.prefix_refl _))
            (hpass.short n (by rw [hplace]; simp))
        obtain ⟨u, hretry, hmade'⟩ := retry_of_look ht₁ hp (hmade.passable hpass) hlook₁
        refine ⟨u, ?_, hmade.trans hup hmade'⟩
        rw [makeDirectories_of_missing hparent htry, bind_of_ok hrun, hretry]
      -- The place is on the way to the working directory, which is there.
      · have hdir := ht.directory_on_way hway hworking
        cases (ht.look_of_found hdir).symm.trans hlook

/-- What making a directory leaves: a directory, with all that was there before. -/
structure Directory (names : List String) (t u : FileTree) : Prop where
  wellFormed : u.WellFormed
  grown : Grown [] t u
  found : u.find? names = some .directory

theorem tryMakeDirectory_null (hp : holdsNull p = true) {r : Option FileTrouble} :
    tryMakeDirectory working p t ≠ .ok r u := by
  intro h
  rw [tryMakeDirectory, hp] at h
  cases h

/-- A first or a second try that ends well has made a directory or found one. -/
theorem directory_of_try {r : Option FileTrouble} (ht : t.WellFormed)
    (htry : tryMakeDirectory working p t = .ok r u) :
    (r = none → Directory (place working p) t u) ∧
      (∀ e, r = some e → u = t ∧
        ∀ trouble v, unlessDirectory working p trouble u = .ok () v →
          Directory (place working p) t v) := by
  cases hp : holdsNull p with
  | true => exact absurd htry (tryMakeDirectory_null hp)
  | false =>
    have hfound : ∀ trouble v, unlessDirectory working p trouble t = .ok () v →
        Directory (place working p) t v := by
      intro trouble v h
      obtain ⟨rfl, hdir⟩ := unlessDirectory_eq_ok h
      exact ⟨ht, .refl [] v, hdir⟩
    rw [tryMakeDirectory_apply working t hp] at htry
    cases hlook : t.look (place working p) with
    | error e =>
      rw [hlook] at htry
      cases htry
      exact ⟨nofun, fun _ _ => ⟨rfl, hfound⟩⟩
    | ok found =>
      rw [hlook] at htry
      cases found with
      | some c =>
        cases htry
        exact ⟨nofun, fun _ _ => ⟨rfl, hfound⟩⟩
      | none =>
        cases htry
        obtain ⟨hreach, hnone⟩ := look_eq_ok hlook
        have hnil : place working p ≠ [] := by
          intro hnil
          rw [hnil] at hnone
          cases hnone
        exact ⟨fun _ => ⟨ht.put hreach hnil (.inl rfl), .put_directory hnone.symm,
          find?_put_self hnil _ _⟩, nofun⟩

theorem directory_of_retry (ht : t.WellFormed) (h : retry working p t = .ok () u) :
    Directory (place working p) t u := by
  obtain ⟨r, v, htry, hrest⟩ := bind_eq_ok_iff.mp h
  obtain ⟨hmade, htrouble⟩ := directory_of_try ht htry
  rcases r with _ | e
  · cases hrest
    exact hmade rfl
  · obtain ⟨rfl, hunless⟩ := htrouble e rfl
    cases e with
    | missing => cases hrest
    | _ => exact hunless _ u hrest

theorem directory_of_makeDirectories (fuel : Nat) :
    ∀ {p : Path} {t u : FileTree}, t.WellFormed → makeDirectories working fuel p t = .ok () u →
      Directory (place working p) t u := by
  induction fuel with
  | zero =>
    intro p t u _ h
    cases h
  | succ fuel ih =>
    intro p t u ht h
    cases htry : tryMakeDirectory working p t with
    | error f v =>
      rw [makeDirectories, bind_of_error htry] at h
      cases h
    | ok r v =>
      obtain ⟨hmade, htrouble⟩ := directory_of_try ht htry
      rcases r with _ | e
      · cases (makeDirectories_of_made htry).symm.trans h
        exact hmade rfl
      · obtain ⟨rfl, hunless⟩ := htrouble e rfl
        by_cases he : e = .missing
        · subst he
          by_cases hparent : p.parent = p
          · cases (makeDirectories_of_root hparent htry).symm.trans h
          · rw [makeDirectories_of_missing hparent htry] at h
            obtain ⟨_, w, hrun, hretry⟩ := bind_eq_ok_iff.mp h
            have hup := ih ht hrun
            have hdir := directory_of_retry hup.wellFormed hretry
            exact ⟨hdir.wellFormed, hup.grown.trans hdir.grown, hdir.found⟩
        · rw [makeDirectories_of_trouble he htry] at h
          exact hunless e u h

theorem clean_of_makeDirectory (h : makeDirectory working p t = .ok () u) : holdsNull p = false := by
  cases hp : holdsNull p with
  | false => rfl
  | true =>
    rw [makeDirectory, makeDirectories] at h
    obtain ⟨r, v, htry, _⟩ := bind_eq_ok_iff.mp h
    exact absurd htry (tryMakeDirectory_null hp)

end Operating

end Filing

end Stencil
