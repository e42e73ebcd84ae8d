import Stencil.Generator
import Stencil.Proofs.LineEnds
/-!
# Stencil.Proofs.Piecewise -- files written piece by piece

A text is written into a file in pieces, each line and each line end for itself, and a codec says what
each of them adds. Where this is the encoding of the piece, behind a mark for the first one, the file
holds the encoding of the text as a whole. The four encodings that are known by themselves are of this
kind. Other codecs are not: Punycode closes each piece with a delimiter, so of a text in pieces the
file holds something else than of the text as a whole.
-/

namespace Stencil.Text

/-! ## Encodings of single texts -/

section Encodings

variable {e : Encoding}

theorem encode_eq_ok_iff {text : List Char} {bytes : List UInt8} :
    e.encode text = .ok bytes ↔ (∀ x ∈ text, e.writes x = true) ∧ text.flatMap e.bytes = bytes := by
  rw [Encoding.encode]
  cases h : text.findIdx? (!e.writes ·) with
  | none => simpa using fun _ => List.findIdx?_eq_none_iff.mp h
  | some i =>
    obtain ⟨hi, hbad, _⟩ := List.findIdx?_eq_some_iff_getElem.mp h
    refine ⟨nofun, fun ⟨hall, _⟩ => ?_⟩
    rw [hall _ (List.getElem_mem hi)] at hbad
    cases hbad

theorem encode_append {text text' : List Char} {bytes bytes' : List UInt8}
    (h : e.encode text = .ok bytes) (h' : e.encode text' = .ok bytes') :
    e.encode (text ++ text') = .ok (bytes ++ bytes') := by
  obtain ⟨hall, rfl⟩ := encode_eq_ok_iff.mp h
  obtain ⟨hall', rfl⟩ := encode_eq_ok_iff.mp h'
  refine encode_eq_ok_iff.mpr ⟨fun x hx => ?_, List.flatMap_append⟩
  rcases List.mem_append.mp hx with hx | hx
  · exact hall x hx
  · exact hall' x hx

end Encodings

/-! ## Codecs -/

namespace Codec

/-- A codec writes piece by piece: `body` gives the bytes of a text without its surroundings, which
come after each other where texts do, and the `mark` stands before the first of them. -/
structure Piecewise (k : Codec) (mark : List UInt8)
    (body : List Char → Except Failure (List UInt8)) : Prop where
  /-- As a whole a text is the mark and its bytes. -/
  whole : ∀ s, k.encode "strict" s = (body s).map (mark ++ ·)
  /-- In a file it is its bytes, behind the mark if it is the first one. -/
  write : ∀ before s, k.write before s =
    (body s).map fun b => if before.isEmpty then mark ++ b else b
  empty : body [] = .ok []
  append : ∀ {s t b c}, body s = .ok b → body t = .ok c → body (s ++ t) = .ok (b ++ c)

section Writing

variable {k : Codec} {mark : List UInt8} {body : List Char → Except Failure (List UInt8)}
  {before : List (List Char)} {t : List Char} {ts : List (List Char)} {bytes : List UInt8}

/-- Where several texts are written, the first one is, and the others are behind it. -/
theorem writeAll_cons_eq (h : k.writeAll before (t :: ts) = (bytes, none)) :
    ∃ first rest, k.write before t = .ok first ∧
      k.writeAll (before ++ [t]) ts = (rest, none) ∧ bytes = first ++ rest := by
  rw [writeAll] at h
  cases hfirst : k.write before t with
  | error f =>
    rw [hfirst] at h
    cases h
  | ok first =>
    rw [hfirst] at h
    obtain ⟨rfl, hstop⟩ := Prod.mk.inj h
    exact ⟨first, _, rfl, Prod.ext rfl (Option.map_eq_none_iff.mp hstop), rfl⟩

/-- Behind others, texts are written as the text they make. -/
theorem Piecewise.body_of_writeAll (h : k.Piecewise mark body) (hbefore : before ≠ [])
    (hrun : k.writeAll before ts = (bytes, none)) : body ts.flatten = .ok bytes := by
  induction ts generalizing before bytes with
  | nil =>
    cases hrun
    exact h.empty
  | cons t ts ih =>
    obtain ⟨first, rest, hfirst, hrest, rfl⟩ := writeAll_cons_eq hrun
    rw [h.write, List.isEmpty_eq_false_iff.mpr hbefore] at hfirst
    cases hbody : body t with
    | error f =>
      rw [hbody] at hfirst
      cases hfirst
    | ok b =>
      rw [hbody] at hfirst
      cases hfirst
      exact h.append hbody (ih (List.append_ne_nil_of_right_ne_nil _ (List.cons_ne_nil _ _)) hrest)

/-- **A file that is written piece by piece holds the encoding of the whole text**, if anything is
written into it. -/
theorem Piecewise.encode_of_writeAll (h : k.Piecewise mark body) (hts : ts ≠ [])
    (hrun : k.writeAll [] ts = (bytes, none)) : k.encode "strict" ts.flatten = .ok bytes := by
  obtain ⟨t, ts, rfl⟩ := List.exists_cons_of_ne_nil hts
  obtain ⟨first, rest, hfirst, hrest, rfl⟩ := writeAll_cons_eq hrun
  have hbehind := h.body_of_writeAll (List.cons_ne_nil t []) hrest
  rw [h.write] at hfirst
  cases hbody : body t with
  | error f =>
    rw [hbody] at hfirst
    cases hfirst
  | ok b =>
    rw [hbody] at hfirst
    cases hfirst
    rw [h.whole, List.flatten_cons, h.append hbody hbehind]
    exact congrArg Except.ok (List.append_assoc mark b rest).symm

end Writing

end Codec

/-- The encodings that are known by themselves write piece by piece. -/
theorem Encoding.codec_piecewise (e : Encoding) : e.codec.Piecewise e.mark e.encode where
  whole s := by
    show e.encodeTreating "strict" s = _
    rw [encodeTreating]
    cases e.encode s with
    | ok b => rfl
    | error f => rfl
  write before s := by
    show (do let b ← e.encode s; return if before.isEmpty then e.mark ++ b else b) = _
    cases e.encode s with
    | ok b => rfl
    | error f => rfl
  empty := encode_eq_ok_iff.mpr ⟨nofun, rfl⟩
  append := encode_append

end Stencil.Text

namespace Stencil.Generator

open Stencil.Text

theorem flatten_pieces (ls : List String) :
    (pieces ls).flatten = unlines (ls.map String.toList) := by
  induction ls with
  | nil => rfl
  | cons l ls ih =>
    rw [List.map_cons, unlines_cons, ← ih]
    rfl

theorem encodeLines_eq_iff {k : Codec} {ls : List String} {bytes : List UInt8} :
    encodeLines k ls = (bytes, none) ↔ k.writeAll [] (pieces ls) = (bytes, none) := by
  simp [encodeLines, Prod.ext_iff]

end Stencil.Generator
