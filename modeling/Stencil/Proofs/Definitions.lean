import Stencil.Parameter
import Stencil.Proofs.Readings
import Stencil.Proofs.Storing
/-!
# Stencil.Proofs.Definitions -- definitions of parameters

A definition binds a name. It is cut at the first equals sign or colon, whatever comes behind that,
unless there is none or nothing stands before it; then it is a name alone. This is what its pattern
says, in which a name with a sign behind it is optional but tried first, and holds no sign itself.

What is behind the sign is evaluated once, with no names, and only then the name is checked. So a
definition that is wrong in both is told by its expression. Of several definitions each is read in
the machine that those before it have left, up to the first one that is wrong.
-/

namespace Stencil

/-! ## Actions that concur -/

namespace Expr

variable {α : Type}

/-- Two actions end alike: with the same value, or both with a failure, and with the same machine. -/
inductive EndAlike : EStateM.Result Failure Machine α → EStateM.Result Failure Machine α → Prop
  | ok (v : α) (m : Machine) : EndAlike (.ok v m) (.ok v m)
  | error (f g : Failure) (m : Machine) : EndAlike (.error f m) (.error g m)

/-- Two actions end alike on every machine. -/
def Concur (a a' : Act α) : Prop := ∀ m, EndAlike (a m) (a' m)

end Expr

namespace Parameter

/-! ## The pattern of definitions -/

section Cutting

open Stencil.Pattern

/-- The pattern of a definition as it is written. -/
def patternText : String := "(?s)(?:(?P<name>[^=:]+)[=:])?(?P<expr>.*)"

/-- A sign that ends a name, or any other character. -/
def mark (negated : Bool) : Pattern.Node := .one negated [.char 61, .char 58] { dotAll := true }

/-- A name and the sign behind it. -/
def marked : Pattern.Node :=
  .group none (.sequence [.group (some 1) (plus (mark true)), mark false])

/-- All that is left of a definition. -/
def remainder : Pattern.Node := .group (some 2) (Pattern.star (.any true))

theorem readAs_definition : ReadAs patternText [Pattern.optional marked, remainder] := by
  decide +kernel

theorem belongs_mark (negated : Bool) :
    belongs negated [.char 61, .char 58] { dotAll := true } = fun c => endsName c != negated := by
  funext c
  have hcode (d : Char) : (c.toNat == d.toNat) = (c == d) := by
    rw [Bool.eq_iff_iff, beq_iff_eq, beq_iff_eq, Char.toNat_inj]
  have hequals : (c.toNat == 61) = (c == '=') := hcode '='
  have hcolon : (c.toNat == 58) = (c == ':') := hcode ':'
  simp [belongs, Flags.forms, ClassItem.holds, endsName, hequals, hcolon]

theorem takes_mark : (mark false).Takes endsName := by
  have h := takes_one false [.char 61, .char 58] { dotAll := true }
  simpa only [mark, belongs_mark, Bool.bne_false] using h

theorem takes_noMark : (mark true).Takes (!endsName ·) := by
  have h := takes_one true [.char 61, .char 58] { dotAll := true }
  simpa only [mark, belongs_mark, Bool.bne_true] using h

variable {x : Subject} {t : Trail}

/-- What is left is matched to the end, whatever it holds. -/
theorem followAll_remainder_any (hlen : t.here.after.length ≤ x.length) :
    followAll x [remainder] t atEnd = some ((t.ahead t.here.after.length).grouped 2 t) := by
  have hall : t.here.after.all (fun c => true || c != '\n') = true := by simp
  simp only [followAll_cons, followAll_nil, remainder, follow_group]
  rw [follow_star_of_final (takes_dot true) hlen (final_atEnd.grouped 2 t), if_pos hall]
  exact atEnd_of_nil List.drop_length

/-- Behind the characters that do not end a name the sign must come. -/
theorem follow_marked (hlen : t.here.after.length ≤ x.length) (k : Next) :
    marked.follow x t k =
      if run (!endsName ·) t.here.after = 0 then none
      else (mark false).follow x
        ((t.ahead (run (!endsName ·) t.here.after)).grouped 1 t) k := by
  have hbar : Barred x (!endsName ·) fun t' => (mark false).follow x (t'.grouped 1 t) k :=
    (takes_mark.barred x k fun c hc => by simpa using hc).grouped 1 t
  rw [marked, follow_plainGroup, follow_sequence]
  simp only [followAll_cons, followAll_nil, follow_group]
  exact follow_plus_of_barred takes_noMark hlen hbar

/-! ## Where a definition is cut -/

/-- Where the first sign of a definition stands. -/
def signAt? (s : List Char) : Option Nat := s.findIdx? endsName

theorem run_of_signAt {s : List Char} {k : Nat} (h : signAt? s = some k) :
    run (!endsName ·) s = k ∧
      ∃ c, s.drop k = c :: s.drop (k + 1) ∧ endsName c = true := by
  induction s generalizing k with
  | nil => cases h
  | cons c s ih =>
    rw [signAt?, List.findIdx?_cons] at h
    cases hc : endsName c with
    | true =>
      rw [hc] at h
      cases h
      exact ⟨by simp [run, hc], c, rfl, hc⟩
    | false =>
      rw [hc] at h
      obtain ⟨j, hj, rfl⟩ := Option.map_eq_some_iff.mp h
      obtain ⟨hrun, hsign⟩ := ih hj
      refine ⟨?_, hsign⟩
      rw [← hrun]
      simp [run, hc]

theorem run_of_no_sign {s : List Char} (h : signAt? s = none) :
    run (!endsName ·) s = s.length := by
  have hall := List.findIdx?_eq_none_iff.mp h
  rw [run, List.takeWhile_eq_self_iff.mpr]
  intro c hc
  rw [hall c hc]
  rfl

/-- A definition is a name alone: it holds no sign, or nothing before it. -/
def IsAlone (s : List Char) : Prop := signAt? s = none ∨ signAt? s = some 0

theorem isAlone_or (s : List Char) : IsAlone s ∨ ∃ k, signAt? s = some k ∧ 0 < k := by
  rw [IsAlone]
  cases signAt? s with
  | none => exact .inl (.inl rfl)
  | some k =>
    cases k with
    | zero => exact .inl (.inr rfl)
    | succ k => exact .inr ⟨k + 1, rfl, k.succ_pos⟩

theorem cut_of_isAlone {s : List Char} (h : IsAlone s) : cut s = (s, none) := by
  rw [cut, List.span_eq_takeWhile_dropWhile]
  rcases h with h | h
  · have hrest : s.dropWhile (!endsName ·) = [] := by
      rw [← drop_run, run_of_no_sign h, List.drop_length]
    rw [hrest]
    cases s.takeWhile (!endsName ·) <;> rfl
  · have hname : s.takeWhile (!endsName ·) = [] := by
      rw [← take_run, (run_of_signAt h).1, List.take_zero]
    rw [hname]

theorem cut_of_signAt {s : List Char} {k : Nat} (h : signAt? s = some k) (hk : 0 < k) :
    cut s = (s.take k, some (s.drop (k + 1))) := by
  obtain ⟨hrun, c, hsign, -⟩ := run_of_signAt h
  rw [cut, List.span_eq_takeWhile_dropWhile, ← take_run, ← drop_run, hrun, hsign]
  have hname : s.take k ≠ [] := by
    rintro hnil
    rw [List.take_eq_nil_iff] at hnil
    rcases hnil with rfl | rfl
    · exact absurd hk (Nat.lt_irrefl 0)
    · cases h
  split
  · next heq => exact absurd (Prod.mk.inj heq).1 hname
  · next heq => cases (Prod.mk.inj heq).2
  · next heq =>
    cases heq
    rfl

/-- The name and the expression that a match of the pattern tells. -/
def cutBy (m : Match) : List Char × Option (List Char) :=
  match m.group? 1 with
  | some name => (name, some (m.group 2))
  | none => (m.group 2, none)

theorem follow_marked_of_isAlone (hlen : t.here.after.length ≤ x.length) (k : Next)
    (h : IsAlone t.here.after) : marked.follow x t k = none := by
  rw [follow_marked hlen]
  rcases h with h | h
  · split
    · rfl
    · refine takes_mark.of_not_holds x k ?_
      rw [run_of_no_sign h, Trail.here_grouped, Trail.after_ahead, List.drop_length]
      exact nofun
  · rw [(run_of_signAt h).1, if_pos rfl]

theorem follow_marked_of_signAt (hlen : t.here.after.length ≤ x.length) (k : Next) {i : Nat}
    (h : signAt? t.here.after = some i) (hi : 0 < i) :
    marked.follow x t k = k (((t.ahead i).grouped 1 t).ahead 1) := by
  obtain ⟨hrun, c, hsign, hc⟩ := run_of_signAt h
  rw [follow_marked hlen, hrun, if_neg hi.ne']
  exact takes_mark.of_holds x k hsign hc

/-- The group behind the name is what is left. -/
theorem chars_ahead_length (t : Trail) :
    Span.chars ⟨t.here, (t.ahead t.here.after.length).here⟩ = t.here.after :=
  (chars_ahead _ _).trans List.take_length

/-- A definition is cut as its pattern says. -/
theorem cut_eq_match (s : List Char) : (matchText? patternText s).map cutBy = some (cut s) := by
  obtain ⟨x, hx, hmatch⟩ := readAs_definition.matchText? s
  have hlen : (outset s).here.after.length ≤ x.length := hx.ge
  rw [hmatch, followAll_cons, follow_optional]
  rcases isAlone_or s with halone | ⟨k, hk, hpos⟩
  · have hrest := chars_ahead_length (outset s)
    rw [follow_marked_of_isAlone hlen _ halone, Option.none_or, followAll_remainder_any hlen,
      cut_of_isAlone halone]
    exact congrArg (fun rest => some (rest, none)) hrest
  · have hname : Span.chars ⟨(outset s).here, ((outset s).ahead k).here⟩ = s.take k :=
      chars_ahead _ _
    have hbehind : ((((outset s).ahead k).grouped 1 (outset s)).ahead 1).here.after =
        s.drop (k + 1) := List.drop_drop
    have hrest := chars_ahead_length ((((outset s).ahead k).grouped 1 (outset s)).ahead 1)
    have hshort : (s.drop (k + 1)).length ≤ x.length := by
      rw [hx]
      exact (List.drop_sublist _ _).length_le
    rw [follow_marked_of_signAt hlen _ hk hpos, followAll_remainder_any (hbehind ▸ hshort),
      Option.some_or, cut_of_signAt hk hpos, ← hbehind, ← hname]
    exact congrArg (fun rest => some (_, some rest)) hrest

end Cutting

/-! ## One definition -/

section Defining

open Stencil.Expr

variable {e : Evaluator} {d : String} {k : Nat} {v : Value} {m m' : Machine} {f : Failure}

/-- The text of a definition behind the sign at a place. -/
def textBehind (d : String) (k : Nat) : String := String.ofList (d.toList.drop (k + 1))

/-- The text before a place, without the blanks around it. -/
def nameBefore (d : String) (k : Nat) : List Char := Text.trim (d.toList.take k)

/-- What a name and a value come to: the name has to be one. -/
def named (d : String) (name : List Char) (v : Value) (m : Machine) :
    EStateM.Result Failure Machine (String × Value) :=
  if Text.isIdentifier name then .ok (String.ofList name, v) m
  else .error (.parameter d ("'" ++ String.ofList name ++ "' is not a valid name")) m

/-- What a definition comes to with an evaluator. -/
inductive Gives (e : Evaluator) (d : String) (m : Machine) :
    EStateM.Result Failure Machine (String × Value) → Prop
  /-- A name alone is bound to true, and nothing is evaluated. -/
  | alone (h : IsAlone d.toList) : Gives e d m (named d (Text.trim d.toList) (.bool true) m)
  /-- The text behind the sign is evaluated, once and with no names, before the name is checked. -/
  | bound {k : Nat} {v : Value} {m' : Machine} (h : signAt? d.toList = some k) (hk : 0 < k)
      (hv : e.evaluate {} (textBehind d k) m = .ok v m') : Gives e d m (named d (nameBefore d k) v m')
  /-- A failed expression is told of the definition, with its reason. -/
  | failed {k : Nat} {text reason : String} {m' : Machine} (h : signAt? d.toList = some k)
      (hk : 0 < k) (hv : e.evaluate {} (textBehind d k) m = .error (.expression text reason) m') :
      Gives e d m (.error (.parameter d reason) m')
  /-- Other failures pass. -/
  | passed {k : Nat} {f : Failure} {m' : Machine} (h : signAt? d.toList = some k) (hk : 0 < k)
      (hv : e.evaluate {} (textBehind d k) m = .error f m')
      (hf : ∀ text reason, f ≠ .expression text reason) : Gives e d m (.error f m')

section Parsing

variable {name : List Char} {expression : Option (List Char)}

theorem parse_of_ok (hcut : cut d.toList = (name, expression))
    (hv : valueOf e d expression m = .ok v m') : parse e d m = named d (Text.trim name) v m' := by
  rw [parse, hcut]
  dsimp only
  rw [bind_of_ok hv, named]
  split <;> rfl

theorem parse_of_error (hcut : cut d.toList = (name, expression))
    (hv : valueOf e d expression m = .error f m') : parse e d m = .error f m' := by
  rw [parse, hcut]
  exact bind_of_error hv

end Parsing

theorem Gives.parse_eq {r : EStateM.Result Failure Machine (String × Value)} (h : Gives e d m r) :
    parse e d m = r := by
  cases h with
  | alone h => exact parse_of_ok (cut_of_isAlone h) rfl
  | bound h hk hv => exact parse_of_ok (cut_of_signAt h hk) (tryCatch_of_ok hv)
  | failed h hk hv => exact parse_of_error (cut_of_signAt h hk) (tryCatch_of_error hv)
  | @passed k f m' h hk hv hf =>
    refine parse_of_error (cut_of_signAt h hk) ((tryCatch_of_error hv).trans ?_)
    cases f with
    | expression text reason => exact absurd rfl (hf text reason)
    | _ => rfl

theorem exists_gives_error (h : signAt? d.toList = some k) (hk : 0 < k)
    (hv : e.evaluate {} (textBehind d k) m = .error f m') : ∃ g, Gives e d m (.error g m') := by
  cases f with
  | expression text reason => exact ⟨_, .failed h hk hv⟩
  | _ => exact ⟨_, .passed h hk hv nofun⟩

theorem gives_parse (e : Evaluator) (d : String) (m : Machine) : Gives e d m (parse e d m) := by
  obtain ⟨r, h⟩ : ∃ r, Gives e d m r := by
    rcases isAlone_or d.toList with halone | ⟨k, hk, hpos⟩
    · exact ⟨_, .alone halone⟩
    · cases hv : e.evaluate {} (textBehind d k) m with
      | ok v m' => exact ⟨_, .bound hk hpos hv⟩
      | error f m' =>
        obtain ⟨g, h⟩ := exists_gives_error hk hpos hv
        exact ⟨_, h⟩
  rwa [h.parse_eq]

/-- A definition comes to one thing, whatever it holds. -/
theorem parse_eq_iff {r : EStateM.Result Failure Machine (String × Value)} :
    parse e d m = r ↔ Gives e d m r :=
  ⟨fun h => h ▸ gives_parse e d m, Gives.parse_eq⟩

/-! ## The other sign -/

/-- Exchange the two signs at a place of a definition. -/
def exchange (d : String) (k : Nat) : String :=
  String.ofList (d.toList.modify k fun c => if c = '=' then ':' else '=')

theorem signAt?_exchange (h : signAt? d.toList = some k) :
    signAt? (exchange d k).toList = some k := by
  obtain ⟨hlt, hsign, hbefore⟩ := List.findIdx?_eq_some_iff_getElem.mp h
  rw [exchange, String.toList_ofList]
  refine List.findIdx?_eq_some_iff_getElem.mpr ⟨by simpa using hlt, ?_, fun j hj => ?_⟩
  · rw [List.getElem_modify_eq]
    split <;> rfl
  · rw [List.getElem_modify, if_neg hj.ne']
    exact hbefore j hj

theorem textBehind_exchange (d : String) (k : Nat) :
    textBehind (exchange d k) k = textBehind d k := by
  rw [textBehind, exchange, String.toList_ofList, List.drop_modify_of_lt _ _ _ _ k.lt_succ_self,
    textBehind]

theorem nameBefore_exchange (d : String) (k : Nat) :
    nameBefore (exchange d k) k = nameBefore d k := by
  rw [nameBefore, exchange, String.toList_ofList, List.take_modify, List.modify_eq_self, nameBefore]
  simp

theorem concur_named (d d' : String) (name : List Char) (v : Value) (m : Machine) :
    EndAlike (named d name v m) (named d' name v m) := by
  rw [named, named]
  split
  · exact .ok _ m
  · exact .error _ _ m

/-- The other sign gives the same name and the same value, or fails as well. -/
theorem concur_exchange (e : Evaluator) (h : signAt? d.toList = some k) (hk : 0 < k) :
    Concur (parse e (exchange d k)) (parse e d) := by
  intro m
  have h' := signAt?_exchange h
  have htext := textBehind_exchange d k
  cases hv : e.evaluate {} (textBehind d k) m with
  | ok v m' =>
    rw [(Gives.bound h hk hv).parse_eq, (Gives.bound h' hk (htext ▸ hv)).parse_eq,
      nameBefore_exchange]
    exact concur_named _ _ _ v m'
  | error f m' =>
    obtain ⟨g, hg⟩ := exists_gives_error h hk hv
    obtain ⟨g', hg'⟩ := exists_gives_error h' hk (htext ▸ hv)
    rw [hg.parse_eq, hg'.parse_eq]
    exact .error g' g m'

/-! ## Several definitions -/

/-- Definitions give names and values, one after the other. -/
inductive GiveAll (e : Evaluator) : List String → Machine → List (String × Value) → Machine → Prop
  | nil (m : Machine) : GiveAll e [] m [] m
  | cons {d : String} {ds : List String} {p : String × Value} {ps : List (String × Value)}
      {m m₁ m₂ : Machine} (h : Gives e d m (.ok p m₁)) (hrest : GiveAll e ds m₁ ps m₂) :
      GiveAll e (d :: ds) m (p :: ps) m₂

/-- The last of several pairs with a name has a value. -/
def IsLast (ps : List (String × Value)) (n : String) (v : Value) : Prop :=
  ∃ earlier later, ps = earlier ++ (n, v) :: later ∧ ∀ p ∈ later, p.1 ≠ n

variable {ds : List String} {ps : List (String × Value)}

theorem giveAll_iff : GiveAll e ds m ps m' ↔ ds.mapM (parse e) m = .ok ps m' := by
  constructor
  · intro h
    induction h with
    | nil m => rfl
    | cons h hrest ih => exact mapM_cons_of_ok h.parse_eq ih
  · intro h
    induction ds generalizing m ps with
    | nil =>
      cases h
      exact .nil _
    | cons d ds ih =>
      obtain ⟨p, m₁, rest, hfirst, hrest, rfl⟩ := mapM_cons_eq_ok h
      exact .cons (parse_eq_iff.mp hfirst) (ih hrest)

theorem lookup_ofPairs (ps : List (String × Value)) (n : String) :
    (Layer.ofPairs ps).get? n = ps.reverse.lookup n := by
  induction ps using List.reverseRecOn with
  | nil => rfl
  | append_singleton ps p ih =>
    have hlast : Layer.ofPairs (ps ++ [p]) = (Layer.ofPairs ps).put p.1 p.2 := by
      rw [Layer.ofPairs, List.foldl_concat, Layer.ofPairs]
    rw [hlast, Layer.get?_put, ih, List.reverse_concat]
    exact (Layer.get?_cons p.1 n p.2 ps.reverse).symm

/-- Of pairs with the same name the last one counts. -/
theorem get?_ofPairs_eq_some_iff {n : String} :
    (Layer.ofPairs ps).get? n = some v ↔ IsLast ps n v := by
  rw [lookup_ofPairs, List.lookup_eq_some_iff]
  constructor
  · rintro ⟨later, earlier, hsplit, hlater⟩
    refine ⟨earlier.reverse, later.reverse, ?_, fun p hp => ?_⟩
    · rw [← List.reverse_reverse ps, hsplit]
      simp
    · have hne := hlater p (List.mem_reverse.mp hp)
      exact Ne.symm (by simpa using hne)
  · rintro ⟨earlier, later, rfl, hlater⟩
    refine ⟨later.reverse, earlier.reverse, by simp, fun p hp => ?_⟩
    have hne := hlater p (List.mem_reverse.mp hp)
    simpa using hne.symm

theorem GiveAll.parseAll_eq (h : GiveAll e ds m ps m') :
    parseAll e ds m = .ok (Layer.ofPairs ps) m' := bind_of_ok (giveAll_iff.mp h)

theorem GiveAll.parseAll_error {later : List String} {m₁ : Machine} (h : GiveAll e ds m ps m₁)
    (hd : Gives e d m₁ (.error f m')) : parseAll e (ds ++ d :: later) m = .error f m' := by
  refine bind_of_error ?_
  rw [List.mapM_append, bind_of_ok (giveAll_iff.mp h)]
  refine bind_of_error ?_
  rw [List.mapM_cons]
  exact bind_of_error hd.parse_eq

/-- What definitions do with an evaluator. -/
structure Defines (e : Evaluator) : Prop where
  /-- A definition is cut as its pattern says. -/
  matched : ∀ s, (Pattern.matchText? patternText s).map cutBy = some (cut s)
  /-- A definition comes to what `Gives` says, and to nothing else. -/
  one : ∀ {d m r}, parse e d m = r ↔ Gives e d m r
  /-- Either sign can end the name. -/
  sign : ∀ {d k}, signAt? d.toList = some k → 0 < k → Concur (parse e (exchange d k)) (parse e d)
  /-- Of several definitions all give something, and each name is bound to the value of its last
  definition; or there is a first one that fails, and nothing is evaluated for those behind it. -/
  all : ∀ ds m,
    (∃ ps l m', GiveAll e ds m ps m' ∧ parseAll e ds m = .ok l m' ∧
      ∀ n v, l.get? n = some v ↔ IsLast ps n v) ∨
    ∃ earlier d later ps m₁ f m', ds = earlier ++ d :: later ∧ GiveAll e earlier m ps m₁ ∧
      Gives e d m₁ (.error f m') ∧ parseAll e ds m = .error f m'

/-- **Definitions are cut at the first sign, evaluated once and checked, and the last one of a name
counts.** -/
theorem defines (e : Evaluator) : Defines e where
  matched := cut_eq_match
  one := parse_eq_iff
  sign := concur_exchange e
  all ds m := by
    cases hrun : ds.mapM (parse e) m with
    | ok ps m' =>
      have h := giveAll_iff.mpr hrun
      exact .inl ⟨ps, _, m', h, h.parseAll_eq, fun n v => get?_ofPairs_eq_some_iff⟩
    | error f m' =>
      obtain ⟨earlier, d, later, ps, m₁, rfl, hearlier, hd⟩ := mapM_eq_error hrun
      have h := giveAll_iff.mpr hearlier
      have hfails := parse_eq_iff.mp hd
      exact .inr ⟨earlier, d, later, ps, m₁, f, m', rfl, h, hfails, h.parseAll_error hfails⟩

/-- All that is behind the first sign is asked for, once. -/
example : parse (.table [] []) " x = 1:2" {} = .ok ("x", .str " 1:2") { journal := [" 1:2"] } := rfl

/-- No name is left over before the first sign, so nothing is asked for. -/
example : parse (.table [] []) "=x" {} =
    .error (.parameter "=x" "'=x' is not a valid name") {} := rfl

end Defining

end Parameter

end Stencil
