import Stencil.Proofs.Commands
import Stencil.Proofs.Rendering
import Stencil.Template
/-!
# Stencil.Proofs.Literal -- the literal part of the template language

Output lines and pairs of a literal pattern and a literal replacement are enough for most templates.
This part of the language has a meaning that can be told without rules, groups and scopes: an output
line comes out with every pair that stands before it applied, one pair after the other. A run goes
through all layers of the library, so the proof follows them: how the lines of a pair are read, which
nodes the builder makes of an item, and which groups are in force when a line is filtered.
-/

namespace Stencil

open Stencil.Expr Stencil.Text

/-! ## Items and what they mean -/

/-- An item of the literal part of the language. -/
inductive Item where
  /-- An output line. -/
  | plain (text : String)
  /-- A pattern and its replacement, between backticks on two lines. -/
  | pair (pattern replacement : String)

namespace Item

/-- The lines of an item. -/
def lines : Item → List String
  | plain text => [text]
  | pair p r => [trigger ++ "=" ++ backticked p, trigger ++ "->" ++ backticked r]

/-- An output line is no command and has no line end at its end; patterns and replacements are any
texts of one line. -/
def Proper : Item → Prop
  | plain text =>
    Command.classify text = none ∧ ∀ c, text.toList.getLast? = some c → c ≠ '\r' ∧ c ≠ '\n'
  | pair p r => '\n' ∉ p.toList ∧ '\n' ∉ r.toList

/-- The lines that items come out as when `pairs` stand before them. -/
def meaning (pairs : List (String × String)) : List Item → List String
  | [] => []
  | plain text :: is => pairs.foldl (fun t q => replaced q.1 q.2 t) text :: meaning pairs is
  | pair p r :: is => meaning (pairs ++ [(p, r)]) is

/-! ## Building -/

/-- The nodes that the builder makes of an item. -/
def nodes : Item → List Node
  | plain text => [.line text]
  | pair p r =>
    [.operation ("=" ++ backticked p) none,
     .operation ("=" ++ backticked p ++ "->" ++ backticked r) (some [.rule (literalRule p r)])]

theorem getLast?_backticked (s : List Char) (t : String) :
    (s ++ (backticked t).toList).getLast? = some '\x60' := by
  have hchars : s ++ (backticked t).toList = s ++ '\x60' :: t.toList ++ ['\x60'] := by
    simp [backticked]
  rw [hchars, List.getLast?_concat]

/-- A text between backticks that is written behind a sign is trimmed already. -/
theorem trim_sign_backticked (sign : List Char)
    (hsign : ∀ c, sign.head? = some c → isBlank c = false) (t : String) :
    trim (sign ++ (backticked t).toList) = sign ++ (backticked t).toList := by
  have htick : isBlank '\x60' = false := by decide
  refine trim_eq_self (fun c hc => ?_) (fun c hc => ?_)
  -- Without a sign the text starts with its backtick.
  · cases sign with
    | nil =>
      obtain rfl : '\x60' = c := by simpa [backticked] using hc
      exact htick
    | cons d ds => exact hsign c (by simpa using hc)
  · rw [getLast?_backticked] at hc
    obtain rfl : '\x60' = c := Option.some.inj hc
    exact htick

/-- A command that holds a text between backticks is read without loss. -/
theorem classify_sign_backticked (sign : List Char) {t : String} (hline : '\n' ∉ sign)
    (hsign : ∀ c, sign.head? = some c → isBlank c = false) (ht : '\n' ∉ t.toList) :
    Command.classify (trigger ++ String.ofList sign ++ backticked t) =
      some ⟨Command.kindOf (sign ++ (backticked t).toList),
        String.ofList sign ++ backticked t, ""⟩ := by
  have hbody : '\n' ∉ sign ++ (backticked t).toList := by
    simp [backticked, hline, ht]
  have htext : String.ofList sign ++ backticked t = String.ofList (sign ++ (backticked t).toList) := by
    rw [String.ofList_append, String.ofList_toList]
  rw [String.append_assoc, htext, Command.classify_trigger hbody, trim_sign_backticked sign hsign]

theorem trimmed_backticked (t : String) : Command.trimmed (backticked t).toList = backticked t := by
  have := trim_sign_backticked [] (by simp) t
  rw [List.nil_append] at this
  rw [Command.trimmed, this, String.ofList_toList]

theorem classify_pattern {p : String} (hp : '\n' ∉ p.toList) :
    Command.classify (trigger ++ "=" ++ backticked p) =
      some ⟨.pattern .plain (backticked p), "=" ++ backticked p, ""⟩ := by
  have hblank : isBlank '=' = false := by decide
  have := classify_sign_backticked ['='] (by simp) (by simpa using hblank) hp
  rwa [List.singleton_append, Command.kindOf, trimmed_backticked] at this

theorem classify_replacement {r : String} (hr : '\n' ∉ r.toList) :
    Command.classify (trigger ++ "->" ++ backticked r) =
      some ⟨.replacement (backticked r), "->" ++ backticked r, ""⟩ := by
  have hblank : isBlank '-' = false := by decide
  have := classify_sign_backticked ['-', '>'] (by simp) (by simpa using hblank) hr
  rwa [List.cons_append, List.singleton_append, Command.kindOf, trimmed_backticked] at this

/-- A text that does not end in a line end is left as it is before it is read. -/
theorem chomp_eq_self {t : String}
    (h : ∀ c, t.toList.getLast? = some c → c ≠ '\r' ∧ c ≠ '\n') :
    String.ofList (chomp t.toList) = t := by
  have hlast : ∀ c, t.toList.reverse.head? = some c → (c == '\r' || c == '\n') = false := by
    intro c hc
    rw [List.head?_reverse] at hc
    simp [h c hc]
  rw [chomp, trimRightWhere, dropWhile_eq_self hlast, List.reverse_reverse, String.ofList_toList]

/-- An output line is proper when its last character, if it is no command, ends no line. -/
theorem proper_plain {text : String} (hcommand : Command.classify text = none) {d : Char}
    (hlast : text.toList.getLast? = some d) (hd : d ≠ '\r' ∧ d ≠ '\n') : (plain text).Proper := by
  refine ⟨hcommand, fun c hc => ?_⟩
  cases hlast.symm.trans hc
  exact hd

theorem chomp_backticked (s t : String) :
    String.ofList (chomp (s ++ backticked t).toList) = s ++ backticked t :=
  chomp_eq_self fun c hc => by
    rw [String.toList_append, getLast?_backticked] at hc
    obtain rfl : '\x60' = c := Option.some.inj hc
    decide

end Item

namespace Builder

theorem line_of_none {text : String} (hend : String.ofList (chomp text.toList) = text)
    (hc : Command.classify text = none) (b : Builder) : b.line text = b.append (.line text) := by
  rw [line, hend, hc]

theorem line_of_some {text : String} (hend : String.ofList (chomp text.toList) = text) {c : Command}
    (hc : Command.classify text = some c) (b : Builder) : b.line text = b.command c := by
  rw [line, hend, hc]

/-- The builder adds the nodes of an item where no block is open and no pattern waits. -/
theorem foldl_line_item {b : Builder} (hblocks : b.blocks = []) (hpending : b.pending = none)
    {i : Item} (hi : i.Proper) :
    i.lines.foldl line b = { b with top := i.nodes.reverse ++ b.top } := by
  cases i with
  | plain text =>
    rw [Item.lines, List.foldl_cons, List.foldl_nil,
      line_of_none (Item.chomp_eq_self hi.2) hi.1, append, hblocks]
    simp [Item.nodes]
  | pair p r =>
    rw [Item.lines, List.foldl_cons, List.foldl_cons, List.foldl_nil,
      line_of_some (Item.chomp_backticked _ _) (Item.classify_pattern hi.1),
      line_of_some (Item.chomp_backticked _ _) (Item.classify_replacement hi.2)]
    simp [Item.nodes, command, pairPattern, pairReplacement, hpending, append, hblocks,
      PendingMatch.shown, MatchMode.sign, literalRule]

theorem foldl_line_items {items : List Item} (hitems : ∀ i ∈ items, i.Proper) {b : Builder}
    (hblocks : b.blocks = []) (hpending : b.pending = none) :
    (items.flatMap Item.lines).foldl line b =
      { b with top := (items.flatMap Item.nodes).reverse ++ b.top } := by
  induction items generalizing b with
  | nil => rfl
  | cons i items ih =>
    rw [List.flatMap_cons, List.foldl_append,
      foldl_line_item hblocks hpending (hitems i List.mem_cons_self),
      ih (fun j hj => hitems j (List.mem_cons_of_mem i hj))
        (b := { b with top := i.nodes.reverse ++ b.top }) hblocks hpending]
    simp

end Builder

/-- The tree of a literal template lists the nodes of its items. -/
theorem root_parse_items {items : List Item} (hitems : ∀ i ∈ items, i.Proper) :
    (Template.parse (items.flatMap Item.lines)).root = .list "<root>" (items.flatMap Item.nodes) := by
  have hfold := Builder.foldl_line_items hitems (b := {}) rfl rfl
  rw [Template.parse, Builder.build, Builder.restart, hfold]
  simp [Builder.complete, Builder.dropPending, Builder.finish, Builder.closeAll]

/-! ## Rendering -/

namespace Item

/-- The session in which lines have been handed out that came while no further error was recorded. -/
def extended (s : Session) (f : Frame) (texts : List String) : Session :=
  { s with
    scope := { s.scope with frame := f }
    lines := s.lines ++ (texts.map fun t => ⟨t, s.scope.errors.length⟩).toArray }

/-- An output line comes out with the pairs in force applied to it. -/
theorem render_line {e : Evaluator} {s : Session} {pairs : List (String × String)} (limit : Nat)
    (hall : s.wanted = none)
    (hrules : s.scope.groups = pairs.map fun q => [literalRule q.1 q.2]) (text : String) :
    (Node.line text).render e limit s =
      .ok () (Render.handed (pairs.foldl (fun t q => replaced q.1 q.2 t) text) s) := by
  obtain ⟨hit, hpairs⟩ := applyAll_literalRules (e := e) (b := s.scope.bindings) pairs
    (Outcome.initial text)
  have hfilter : s.scope.filterOrFail e text s.machine =
      .ok ⟨hit, pairs.foldl (fun t q => replaced q.1 q.2 t) text⟩ s.machine := by
    rw [Scope.filterOrFail_eq_groups, hrules, hpairs]
    rfl
  rw [Node.render, bind_of_ok (Render.filterLine_of_ok hfilter)]
  exact Render.emit_of_all _ hall

/-- The nodes of items hand out the meaning of the items. What the pairs before them have registered
is all that is in force. -/
theorem renderAll_nodes (e : Evaluator) (limit : Nat) (items : List Item) :
    ∀ (pairs : List (String × String)) (s : Session), s.wanted = none → s.scope.enclosing = [] →
      s.scope.groups = (pairs.map fun q => [literalRule q.1 q.2]) →
      ∃ f, Node.renderAll e limit (items.flatMap nodes) s =
        .ok () (extended s f (meaning pairs items)) := by
  induction items with
  | nil =>
    intro pairs s _ _ _
    exact ⟨s.scope.frame, by simp [Node.renderAll, extended, meaning]⟩
  | cons i items ih =>
    intro pairs s hall hlevel hrules
    cases i with
    | plain text =>
      have hline := render_line (e := e) limit hall hrules text
      obtain ⟨f, hrest⟩ := ih pairs
        (Render.handed (pairs.foldl (fun t q => replaced q.1 q.2 t) text) s)
        (by rw [Render.handed, hall]; rfl) hlevel hrules
      refine ⟨f, ?_⟩
      rw [List.flatMap_cons, nodes, List.singleton_append, Node.renderAll, bind_of_ok hline, hrest]
      simp [extended, meaning, Render.handed, hall]
    | pair p r =>
      -- The pattern's own node does nothing; the rule is registered by that of the replacement.
      obtain ⟨f, hrest⟩ := ih (pairs ++ [(p, r)])
        { s with scope := s.scope.addAlone (literalRule p r) } hall hlevel
        (by rw [Scope.groups_addAlone _ hlevel, hrules]; simp)
      refine ⟨f, ?_⟩
      rw [List.flatMap_cons, nodes, List.cons_append, List.singleton_append, Node.renderAll,
        bind_of_ok (Render.render_unused _), Node.renderAll, bind_of_ok (Render.render_rule _ _), hrest]
      rfl

end Item

/-- **The literal part of the language means what it says.** Whatever evaluator and bindings a
literal template is rendered with, it comes out as one line for each of its output lines, in their
order: the line with the pairs before it applied in their order, each of them to every occurrence of
its pattern. Pairs after the line have no part in it, and no error is recorded. -/
theorem run_literal_template {items : List Item} (hitems : ∀ i ∈ items, i.Proper) (e : Evaluator)
    (l : Layer) (m : Machine) :
    ∃ t : Session,
      (Template.parse (items.flatMap Item.lines)).root.run e none
          { scope := Scope.ofLayer l, machine := m } =
        (((Item.meaning [] items).map fun text => ⟨text, 0⟩).toArray, none, t) ∧
      t.scope.errors = [] := by
  obtain ⟨f, hrender⟩ := Item.renderAll_nodes e passLimit items []
    { scope := Scope.ofLayer l, machine := m } rfl rfl rfl
  rw [root_parse_items hitems, Node.run, Node.runWithin, if_neg (by decide), Node.render, hrender]
  refine ⟨{ scope := { Scope.ofLayer l with frame := f }, machine := m }, ?_, rfl⟩
  simp [Item.extended, Scope.ofLayer]

/-- Neither signs of patterns nor an exclamation mark mean anything between backticks, and the empty
pattern stands at every place. -/
theorem run_literal_template_signs :
    ∃ t : Session,
      (Template.parse
          ["a.*b", "///=\x60.*\x60", "///->\x60!x\x60", "a.*b", "///=\x60\x60", "///->\x60-\x60",
            "ab"]).root.run .standard none { scope := Scope.ofLayer [] } =
        (#[⟨"a.*b", 0⟩, ⟨"a!xb", 0⟩, ⟨"-a-b-", 0⟩], none, t) ∧ t.scope.errors = [] := by
  have hproper : ∀ i ∈ [Item.plain "a.*b", .pair ".*" "!x", .plain "a.*b", .pair "" "-", .plain "ab"],
      i.Proper := by
    intro i hi
    simp only [List.mem_cons, List.not_mem_nil, or_false] at hi
    rcases hi with rfl | rfl | rfl | rfl | rfl
    · exact Item.proper_plain (by decide) (d := 'b') (by decide) (by decide)
    · exact ⟨by decide, by decide⟩
    · exact Item.proper_plain (by decide) (d := 'b') (by decide) (by decide)
    · exact ⟨by decide, by decide⟩
    · exact Item.proper_plain (by decide) (d := 'b') (by decide) (by decide)
  exact run_literal_template hproper .standard [] {}

end Stencil
