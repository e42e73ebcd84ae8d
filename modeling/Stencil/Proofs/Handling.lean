import Stencil.Proofs.Advancing
import Stencil.Proofs.Classification
import Stencil.Proofs.Reprinting
import Stencil.Template
/-!
# Stencil.Proofs.Handling -- the parts that commands are handled by

A command can be written down as a record with a place for everything that some command carries: an
argument, the head of a block, options. Nothing about such a record says that its places are filled
as its type demands, and what handles it does not ask: it takes the argument where the type of the
command has one, and looks the options up as they are written. It would slip on a place that is empty
and on a word that is no option.

The places are filled from the groups of the pattern that the command has matched. Those groups take
part in every match, an option is one of the words that the pattern lists, and what is trimmed does
not become empty, because the patterns demand a character that is no blank. So no line gives a command
that could not be handled, in whatever state the tree is that is being built.
-/

namespace Stencil

open Stencil.Text Stencil.Pattern

/-! ## Commands as records -/

/-- The type of a command, apart from what the command carries. -/
inductive CommandType where
  | blank
  | said (f : CommandForm)
  | unknown
  deriving DecidableEq, Repr

/-- A command as a record. What a command of its type does not carry is left out, but nothing says
that the rest is there. -/
structure LooseCommand where
  type : CommandType
  text : String
  indent : String
  argument : Option String := none
  loop : Option LoopHeader := none
  options : List String := []
  deriving DecidableEq, Repr

/-- What can be missing where it is asked for. -/
inductive Slip where
  /-- A group took no part in the match. -/
  | group (i : Nat)
  /-- A command has no argument. -/
  | argument
  /-- A word is no option. -/
  | option (word : String)
  deriving DecidableEq, Repr

/-- The type of a kind of command. -/
def CommandKind.type : CommandKind → CommandType
  | blank => .blank
  | comment => .said .comment
  | pattern .plain _ => .said .matchPlain
  | pattern .regex _ => .said .matchRegex
  | replacement _ => .said .replacement
  | eval _ => .said .eval
  | insert _ => .said .insert
  | blockOpen _ => .said .blockOpen
  | blockClose => .said .blockClose
  | filename _ => .said .filename
  | normalize _ => .said .normalize
  | unknown => .unknown

/-- A command as a record. -/
def Command.loose (c : Command) : LooseCommand where
  type := c.kind.type
  text := c.text
  indent := c.indent
  argument := c.kind.argument
  loop := c.kind.loop
  options := c.kind.options

/-! ## Filling the places -/

/-- What a group has matched, where it is taken to have matched something. -/
def Match.used (m : Match) (i : Nat) : Except Slip (List Char) :=
  match m.group? i with
  | some s => .ok s
  | none => .error (.group i)

/-- A command of a form, with its places filled from the match of the pattern. The path is passed on
as it is, be it missing. -/
def CommandForm.fill (m : Match) (text indent : String) (f : CommandForm) :
    Except Slip LooseCommand :=
  let plain : LooseCommand := { type := .said f, text, indent }
  match f with
  | comment | blockClose => return plain
  | replacement | matchPlain | matchRegex | eval | insert => do
    return { plain with argument := some (Command.trimmed (← m.used 1)) }
  | blockOpen => do
    return { plain with
      loop := some {
        name := (m.group? 2).map String.ofList
        expression := ((m.group? 3).filter (!·.isEmpty)).map String.ofList
        collapse := (← m.used 1).contains '/' } }
  | normalize => do return { plain with options := (words (← m.used 1)).map String.ofList }
  | filename => return { plain with argument := (m.group? 1).map String.ofList }

/-- The forms in the order in which their patterns are tried. -/
def CommandForm.inOrder : List CommandForm :=
  [comment, replacement, matchPlain, matchRegex, blockOpen, blockClose, eval, insert, normalize,
    filename]

/-- The command that a line is, as a record. -/
def LooseCommand.classify (line : String) : Option (Except Slip LooseCommand) :=
  (commandMatch? line.toList).map fun m => do
    let indent := String.ofList (← m.used 1)
    let s := trim (← m.used 2)
    let text := String.ofList s
    if s.isEmpty then return { type := .blank, text, indent }
    match CommandForm.inOrder.findSome? fun f => (f.match? s).map (f.fill · text indent) with
    | some filled => filled
    | none => return { type := .unknown, text, indent }

/-- How the places of a command are filled. -/
structure LooseCommand.WellFilled (c : LooseCommand) : Prop where
  loop : c.loop.isSome ↔ c.type = .said .blockOpen
  argument : c.argument.isSome ↔ ∃ f ∈ [CommandForm.replacement, .matchPlain, .matchRegex, .eval,
    .insert, .filename], c.type = .said f
  /-- An argument is a line without blanks around it, -/
  line : ∀ a, c.argument = some a → '\n' ∉ a.toList ∧ trim a.toList = a.toList
  /-- which is not empty where there must be something to be done. -/
  something : ∀ a, c.argument = some a →
    c.type ∈ [CommandType.said .eval, .said .insert, .said .filename] → a ≠ ""
  options : c.options ≠ [] ↔ c.type = .said .normalize
  known : ∀ w ∈ c.options, ∃ n : Normalizer, n.word = w
  expression : ∀ h, c.loop = some h → ∀ x, h.expression = some x →
    x ≠ "" ∧ trim x.toList = x.toList

/-! ## Handling them -/

/-- The argument of a command, where it is taken to have one. -/
def LooseCommand.usedArgument (c : LooseCommand) : Except Slip String :=
  match c.argument with
  | some a => .ok a
  | none => .error .argument

/-- What an option demands, where it is taken to be one. -/
def Normalizer.named (w : String) : Except Slip Normalizer :=
  match ofWord? w.toList with
  | some n => .ok n
  | none => .error (.option w)

namespace Builder

/-- The node of a command, and the builder when the command has been read but for the place of its
node. -/
def handle (b : Builder) (c : LooseCommand) : Except Slip (Node × Builder) :=
  match c.type with
  | .blank => return (.operation "<blank>" none, b)
  | .said .comment => return (.operation c.text none, b)
  | .said .replacement => do
    let (n, pending) := pairReplacement b.pending (← c.usedArgument)
    return (n, { b with pending })
  | .said .matchPlain => do
    let (n, pending) := pairPattern b.pending .plain (← c.usedArgument)
    return (n, { b with pending })
  | .said .matchRegex => do
    let (n, pending) := pairPattern b.pending .regex (← c.usedArgument)
    return (n, { b with pending })
  | .said .blockOpen => return (.block (c.loop.getD {}) [], b)
  | .said .blockClose =>
    match b.closeBlock with
    | none => return (.error "unbalanced block close", b)
    | some (o, b') => return (.operation ("pop " ++ (blockNode o).describe) none, b')
  | .said .eval => return (.eval (← c.usedArgument), b)
  | .said .insert => return (.insert (← c.usedArgument) c.indent, b)
  | .said .normalize => do
    let options ← c.options.mapM Normalizer.named
    return (.operation c.text (some (options.map .normalize)), b)
  | .said .filename => do
    let path := Path.ofText (← c.usedArgument)
    return (.operation c.text none,
      { b with filename := some path }.report .debug ("Output file name set to " ++ path.shown))
  | .unknown => return (.error ("unknown command: " ++ c.text), b)

/-- Put a node in its place: a block is opened, any other node goes to the innermost open block. -/
def place (b : Builder) (n : Node) : Builder :=
  match n with
  | .block loop _ => b.openBlock loop
  | n => b.append n

end Builder

/-! ## The groups take part -/

/-- A group among the parts of a pattern has matched something in every match. -/
theorem Pattern.ReadAs.isSome_group? {pattern : String} {ns : List Pattern.Node} {s : List Char}
    {m : Match} {i : Nat} {body : Pattern.Node} (h : ReadAs pattern ns) (hmem : .group (some i) body ∈ ns)
    (hmatch : Pattern.matchText? pattern s = some m) :
    (m.group? i).isSome := by
  obtain ⟨x, -, heq⟩ := h.matchText? s
  rw [heq] at hmatch
  obtain ⟨t, hfollow, rfl⟩ := Option.map_eq_some_iff.mp hmatch
  obtain ⟨t', hpart, hend⟩ := followAll_group hmem hfollow
  obtain ⟨-, hend⟩ := Option.ite_none_right_eq_some.mp hend
  rwa [← Option.some.inj hend, CommandForm.group?_matched, Option.isSome_map]

theorem Match.used_eq {m : Match} {i : Nat} (h : (m.group? (i + 1)).isSome) :
    m.used (i + 1) = .ok (m.group (i + 1)) := by
  obtain ⟨s, hs⟩ := Option.isSome_iff_exists.mp h
  rw [used, CommandForm.group_eq, hs]
  rfl

namespace CommandForm

variable {f : CommandForm} {s : List Char} {m : Match}

/-- The forms that carry something have a group for it. -/
theorem exists_group (hcomment : f ≠ comment) (hclose : f ≠ blockClose) :
    ∃ body, .group (some 1) body ∈ f.parts := by
  cases f with
  | comment => exact absurd rfl hcomment
  | blockClose => exact absurd rfl hclose
  | replacement => exact ⟨_, .tail _ (.tail _ (.tail _ (.head _)))⟩
  | matchPlain | matchRegex | eval | insert => exact ⟨_, List.mem_append_right _ (.head _)⟩
  | blockOpen => exact ⟨_, List.mem_append_right _ (.head _)⟩
  | normalize => exact ⟨_, List.mem_append_right _ (.tail _ (.tail _ (.head _)))⟩
  | filename => exact ⟨_, List.mem_append_right _ (.tail _ (.head _))⟩

/-- That group takes part in every match. -/
theorem isSome_group? (h : f.match? s = some m) (hcomment : f ≠ comment)
    (hclose : f ≠ blockClose) : (m.group? 1).isSome := by
  obtain ⟨body, hmem⟩ := exists_group hcomment hclose
  exact f.readAs_parts.isSome_group? hmem h

theorem used_one (h : f.match? s = some m) (hcomment : f ≠ comment) (hclose : f ≠ blockClose) :
    m.used 1 = .ok (m.group 1) :=
  Match.used_eq (isSome_group? h hcomment hclose)

/-- What the options of a tidying command are read from are options. -/
theorem words_of_normalize (h : normalize.match? s = some m) :
    ∀ w ∈ words (m.group 1), w = "spaces".toList := by
  obtain ⟨x, hx, heq⟩ := normalize.readAs_parts.matchText? s
  rw [match?, heq] at h
  obtain ⟨t, hfollow, rfl⟩ := Option.map_eq_some_iff.mp h
  have hcut : normalize.parts = (word "normali" ++ [.one false [.char 115, .char 122] {}, sign 'e']) ++
      [.group (some 1) (plus tidied)] := rfl
  rw [hcut] at hfollow
  obtain ⟨t₁, hlead, hlast⟩ := followAll_last hfollow
  have hlen : t₁.here.after.length ≤ x.length := by
    obtain ⟨n, -, hn⟩ := hlead.here
    rw [hn, hx]
    exact (outset s).length_ahead_le n
  rw [follow_group, follow_plus_tidied hlen (final_atEnd.grouped 1 t₁)] at hlast
  obtain ⟨⟨-, htidies⟩, hend⟩ := Option.ite_none_right_eq_some.mp hlast
  obtain ⟨-, hend⟩ := Option.ite_none_right_eq_some.mp hend
  rw [← Option.some.inj hend, group_grouped, List.take_length]
  exact htidies.words_eq

/-- A word that is an option is the word of what it demands. -/
theorem map_word_of_options {ws : List (List Char)} (hws : ∀ w ∈ ws, w = "spaces".toList) :
    (ws.filterMap Normalizer.ofWord?).map Normalizer.word = ws.map String.ofList := by
  induction ws with
  | nil => rfl
  | cons w ws ih =>
    obtain rfl := hws w List.mem_cons_self
    have hword : Normalizer.ofWord? "spaces".toList = some .spaces := by decide
    rw [List.filterMap_cons_some hword, List.map_cons, List.map_cons,
      ih fun v hv => hws v (List.mem_cons_of_mem _ hv)]
    rfl

/-- The places of a command are filled with what the command demands, and filling them does not
slip. -/
theorem fill_eq (h : f.match? s = some m) (text indent : String) :
    f.fill m text indent = .ok (Command.loose ⟨f.demand m, text, indent⟩) := by
  cases f with
  | comment | blockClose => rfl
  | replacement | matchPlain | matchRegex | eval | insert =>
    rw [fill, used_one h (by decide) (by decide)]
    rfl
  | blockOpen =>
    have hexpression : ((m.group? 3).filter (!·.isEmpty)).map String.ofList =
        if (m.group 3).isEmpty then none else some (String.ofList (m.group 3)) := by
      rw [group_eq]
      cases m.group? 3 with
      | none => rfl
      | some s => cases s <;> rfl
    rw [fill, used_one h (by decide) (by decide), hexpression]
    rfl
  | normalize =>
    rw [fill, used_one h (by decide) (by decide), Command.loose]
    simp only [demand, CommandKind.options, map_word_of_options (words_of_normalize h)]
    rfl
  | filename =>
    obtain ⟨path, hpath⟩ := Option.isSome_iff_exists.mp (isSome_group? h (by decide) (by decide))
    have hgroup : m.group 1 = path := by rw [group_eq, hpath]; rfl
    rw [fill, hpath, Command.loose, demand, hgroup]
    rfl

theorem findSome?_fill (order : List CommandForm) (s : List Char) (text indent : String) :
    order.findSome? (fun f => (f.match? s).map (f.fill · text indent)) =
      (order.findSome? (·.reading s)).map fun k => .ok (Command.loose ⟨k, text, indent⟩) := by
  rw [List.map_findSome?]
  congr 1
  funext f
  rw [Function.comp_apply, reading, Option.map_map]
  cases h : f.match? s with
  | none => rfl
  | some m => rw [Option.map_some, Option.map_some, fill_eq h, Function.comp_apply]

end CommandForm

/-- Reading a line as a record does not slip, and gives the command that the line is. -/
theorem LooseCommand.classify_eq (line : String) :
    LooseCommand.classify line = (Command.classify line).map fun c => .ok c.loose := by
  have hall : ∀ f, f ∈ CommandForm.inOrder := fun f => by cases f <;> decide
  rw [← Command.classifyIn_eq hall (by decide), classify, Command.classifyIn]
  cases hmatch : commandMatch? line.toList with
  | none => rfl
  | some m =>
    have hindent : m.used 1 = .ok (m.group 1) :=
      Match.used_eq (command_readAs.isSome_group? (.head _) hmatch)
    have hbody : m.used 2 = .ok (m.group 2) :=
      Match.used_eq (command_readAs.isSome_group? (List.mem_append_right _ (.head _)) hmatch)
    rw [Option.map_some, Option.map_some, Option.map_some, hindent, hbody]
    refine congrArg some ?_
    dsimp only
    show (if (trim (m.group 2)).isEmpty then _ else _) = _
    cases hempty : (trim (m.group 2)).isEmpty with
    | true => rfl
    | false =>
      rw [CommandForm.findSome?_fill, CommandForm.readIn]
      cases CommandForm.inOrder.findSome? (·.reading (trim (m.group 2))) <;> rfl

/-! ## What the places are filled with -/

/-- A line of text without blanks around it. -/
def IsTidy (a : String) : Prop := '\n' ∉ a.toList ∧ trim a.toList = a.toList

/-- What a command carries is what can be handled. -/
def CommandKind.Carries : CommandKind → Prop
  | pattern _ a | replacement a => IsTidy a
  | eval a | insert a | filename a => IsTidy a ∧ a ≠ ""
  | normalize os => os ≠ []
  | blockOpen h => h.Proper
  | blank | comment | blockClose | unknown => True

theorem isTidy_trimmed {r : List Char} (hline : '\n' ∉ r) : IsTidy (Command.trimmed r) := by
  rw [IsTidy, Command.trimmed, String.toList_ofList]
  exact ⟨fun h => hline ((trim_sublist r).subset h), trim_trim r⟩

theorem trimmed_ne_empty {r : List Char} (hsome : ¬r.all isBlank = true) :
    Command.trimmed r ≠ "" := by
  simp only [List.all_eq_true, not_forall, Bool.not_eq_true] at hsome
  obtain ⟨c, hmem, hc⟩ := hsome
  have htrim : c ∈ trim r := (mem_trim_iff hc).mpr hmem
  rw [Ne, ← String.toList_inj, Command.trimmed, String.toList_ofList]
  exact List.ne_nil_of_mem htrim

theorem readOptions_ne_nil {r : List Char} {os : List Normalizer}
    (h : Command.readOptions r = some os) : os ≠ [] := by
  unfold Command.readOptions at h
  split at h
  · obtain ⟨-, h⟩ := Option.ite_none_right_eq_some.mp h
    rw [← Option.some.inj h]
    exact List.cons_ne_nil _ _
  · cases h

theorem isTidy_of_readPath {r : List Char} {p : String}
    (hlast : ∀ c, r.getLast? = some c → isBlank c = false) (h : Command.readPath r = some p) :
    IsTidy p ∧ p ≠ "" := by
  rw [CommandForm.readPath_eq hlast] at h
  obtain ⟨-, h⟩ := Option.ite_none_left_eq_some.mp h
  obtain ⟨⟨hne, hall⟩, h⟩ := Option.ite_none_right_eq_some.mp h
  obtain rfl := Option.some.inj h
  have hblank : ∀ c ∈ r.dropWhile isBlank, isBlank c = false := fun c hc => by
    simpa using List.all_eq_true.mp hall c hc
  rw [IsTidy, Ne, ← String.toList_inj, String.toList_ofList]
  refine ⟨⟨fun hfeed => absurd (hblank _ hfeed) (by decide), ?_⟩, hne⟩
  exact trim_eq_self (fun c hc => hblank c (List.mem_of_mem_head? hc))
    fun c hc => hblank c (List.mem_of_mem_getLast? hc)

open CommandForm in
/-- Every line that is a command carries what can be handled. -/
theorem Command.carries_of_classify {line : String} {c : Command}
    (h : Command.classify line = some c) : c.kind.Carries := by
  obtain ⟨indent, body, -, -, hbody, hc⟩ := classify_eq_some_iff.mp h
  obtain ⟨s, hs⟩ : ∃ s, s = trim body := ⟨_, rfl⟩
  have hline : '\n' ∉ s := fun hmem => hbody ((trim_sublist body).subset (hs ▸ hmem))
  have htrim : trim s = s := by rw [hs, trim_trim]
  have hlast : ∀ c, s.getLast? = some c → isBlank c = false := htrim ▸ getLast?_trim s
  have hkind : kindOf s = c.kind := by rw [hs, hc]
  have hread : ∀ f : CommandForm, c.kind.form? = some f → f.reading s = some c.kind :=
    fun f hf => hkind ▸ reading_of_kindOf hline htrim (hkind ▸ hf)
  have htidy : ∀ {w r : List Char}, s = w ++ r → IsTidy (trimmed r) := fun hcut =>
    isTidy_trimmed fun hmem => hline (hcut ▸ List.mem_append_right _ hmem)
  cases hk : c.kind with
  | blank | comment | blockClose | unknown => trivial
  | pattern mode a =>
    cases mode with
    | plain =>
      have hform := hread .matchPlain (by rw [hk]; rfl)
      rw [hk, reading_matchPlain hline, after_eq_some_iff] at hform
      obtain ⟨r, hcut, ⟨⟩⟩ := hform
      exact htidy hcut
    | regex =>
      have hform := hread .matchRegex (by rw [hk]; rfl)
      rw [hk, reading_matchRegex hline, after_eq_some_iff] at hform
      obtain ⟨r, hcut, ⟨⟩⟩ := hform
      exact htidy hcut
  | replacement a =>
    have hform := hread .replacement (by rw [hk]; rfl)
    rw [hk, reading_replacement hline, Option.map_eq_some_iff] at hform
    obtain ⟨r, hr, ⟨⟩⟩ := hform
    rcases Option.or_eq_some_iff.mp hr with hr | ⟨-, hr⟩
    · exact htidy (afterPrefix?_eq_some_iff.mp hr)
    · exact htidy (afterPrefix?_eq_some_iff.mp hr)
  | eval a =>
    have hform := hread .eval (by rw [hk]; rfl)
    rw [hk, reading_eval hline, after_eq_some_iff] at hform
    obtain ⟨r, hcut, hform⟩ := hform
    obtain ⟨hsome, ⟨⟩⟩ := Option.ite_none_left_eq_some.mp hform
    exact ⟨htidy hcut, trimmed_ne_empty hsome⟩
  | insert a =>
    have hform := hread .insert (by rw [hk]; rfl)
    rw [hk, reading_insert hline, after_eq_some_iff] at hform
    obtain ⟨r, hcut, hform⟩ := hform
    obtain ⟨hsome, ⟨⟩⟩ := Option.ite_none_left_eq_some.mp hform
    exact ⟨htidy hcut, trimmed_ne_empty hsome⟩
  | blockOpen loop => exact proper_of_classify h hk
  | filename p =>
    have hform := hread .filename (by rw [hk]; rfl)
    rw [hk, reading_filename hline hlast, after_eq_some_iff] at hform
    obtain ⟨r, hcut, hform⟩ := hform
    obtain ⟨q, hq, ⟨⟩⟩ := Option.map_eq_some_iff.mp hform
    exact isTidy_of_readPath (getLast?_of_suffix ⟨_, hcut.symm⟩ hlast) hq
  | normalize os =>
    have hform := hread .normalize (by rw [hk]; rfl)
    rw [hk, reading_normalize hline hlast, Option.bind_eq_some_iff] at hform
    obtain ⟨r, -, hform⟩ := hform
    obtain ⟨os', hos, ⟨⟩⟩ := Option.map_eq_some_iff.mp hform
    exact readOptions_ne_nil hos

namespace CommandKind

variable {k : CommandKind}

theorem isSome_loop_iff : k.loop.isSome ↔ k.type = .said .blockOpen := by
  cases k with
  | pattern mode a => cases mode <;> simp [loop, type]
  | _ => simp [loop, type]

theorem isSome_argument_iff : k.argument.isSome ↔ ∃ f ∈ [CommandForm.replacement, .matchPlain,
    .matchRegex, .eval, .insert, .filename], k.type = .said f := by
  cases k with
  | pattern mode a => cases mode <;> simp [argument, type]
  | _ => simp [argument, type]

theorem Carries.argument {a : String} (h : k.Carries) (ha : k.argument = some a) :
    IsTidy a ∧ (k.type ∈ [CommandType.said .eval, .said .insert, .said .filename] → a ≠ "") := by
  cases k with
  | pattern mode b =>
    obtain rfl := Option.some.inj ha
    exact ⟨h, by cases mode <;> simp [type]⟩
  | replacement b =>
    obtain rfl := Option.some.inj ha
    exact ⟨h, by simp [type]⟩
  | eval b | insert b | filename b =>
    obtain rfl := Option.some.inj ha
    exact ⟨h.1, fun _ => h.2⟩
  | _ => cases ha

theorem Carries.options_iff (h : k.Carries) : k.options ≠ [] ↔ k.type = .said .normalize := by
  cases k with
  | normalize os =>
    have hne : os ≠ [] := h
    simp [options, type, hne]
  | pattern mode a => cases mode <;> simp [options, type]
  | _ => simp [options, type]

theorem known_of_mem_options {w : String} (hw : w ∈ k.options) : ∃ n : Normalizer, n.word = w := by
  cases k with
  | normalize os =>
    obtain ⟨n, -, hn⟩ := List.mem_map.mp hw
    exact ⟨n, hn⟩
  | _ => cases hw

theorem Carries.loop {loop : LoopHeader} (h : k.Carries) (hloop : k.loop = some loop) :
    loop.Proper := by
  cases k with
  | blockOpen _ =>
    obtain rfl := Option.some.inj hloop
    exact h
  | _ => cases hloop

end CommandKind

/-- A record that is made of such a command has its places filled as its type demands. -/
theorem Command.wellFilled_loose {c : Command} (h : c.kind.Carries) : c.loose.WellFilled where
  loop := CommandKind.isSome_loop_iff
  argument := CommandKind.isSome_argument_iff
  line := fun _ ha => (h.argument ha).1
  something := fun _ ha => (h.argument ha).2
  options := h.options_iff
  known := fun _ hw => CommandKind.known_of_mem_options hw
  expression := fun _ hloop x hx =>
    have hproper := (h.loop hloop).expression x hx
    ⟨hproper.1, hproper.2.2⟩

/-! ## No slips -/

/-- The words of options are options. -/
theorem mapM_named_word (os : List Normalizer) : (os.map Normalizer.word).mapM Normalizer.named =
    .ok os := by
  have hnamed : ∀ n : Normalizer, Normalizer.named n.word = .ok n := fun n => by
    cases n; decide
  rw [List.mapM_map]
  induction os with
  | nil => rfl
  | cons n os ih =>
    rw [List.mapM_cons, Function.comp_apply, hnamed, ih]
    rfl

/-- A node tells that a command is not known. -/
def Node.TellsUnknown (n : Node) : Prop := ∃ text, n = .error ("unknown command: " ++ text)

theorem Node.not_tellsUnknown_error {message : String} (h : ¬"unk".toList <+: message.toList) :
    ¬(Node.error message).TellsUnknown := by
  rintro ⟨text, heq⟩
  rw [Node.error.inj heq, String.toList_append] at h
  exact h ((by decide : "unk".toList <+: "unknown command: ".toList).trans (List.prefix_append _ _))

theorem Node.not_tellsUnknown_append {w : String} {c : Char} (hw : w.toList.head? = some c)
    (hc : c ≠ 'u') (text : String) : ¬(Node.error (w ++ text)).TellsUnknown := by
  refine not_tellsUnknown_error fun hprefix => hc ?_
  obtain ⟨r, hr⟩ := List.head?_eq_some_iff.mp hw
  rw [String.toList_append, hr, List.cons_append] at hprefix
  exact (List.cons_prefix_cons.mp hprefix).1.symm

namespace Builder

/-- The node of a replacement or a pattern is no block, and does not tell that the command is not
known. -/
theorem pairReplacement_known (pending : Option PendingMatch) (text : String) :
    ¬(pairReplacement pending text).1.TellsUnknown ∧
      ∀ b : Builder, b.place (pairReplacement pending text).1 =
        b.append (pairReplacement pending text).1 := by
  cases pending with
  | none => exact ⟨Node.not_tellsUnknown_append rfl (by decide) text, fun _ => rfl⟩
  | some p => exact ⟨nofun, fun _ => rfl⟩

theorem pairPattern_known (pending : Option PendingMatch) (mode : MatchMode) (text : String) :
    ¬(pairPattern pending mode text).1.TellsUnknown ∧
      ∀ b : Builder, b.place (pairPattern pending mode text).1 =
        b.append (pairPattern pending mode text).1 := by
  cases pending with
  | none => exact ⟨nofun, fun _ => rfl⟩
  | some p => exact ⟨Node.not_tellsUnknown_append rfl (by decide) p.shown, fun _ => rfl⟩

/-- Handling a command as a record does not slip, and does what the command demands. -/
theorem handle_loose (b : Builder) (c : Command) :
    ∃ n b', b.handle c.loose = .ok (n, b') ∧ b.command c = b'.place n ∧
      (n.TellsUnknown ↔ c.kind = .unknown) := by
  obtain ⟨kind, text, indent⟩ := c
  have hknown : ∀ {n : Node}, ¬n.TellsUnknown → kind ≠ .unknown →
      (n.TellsUnknown ↔ kind = .unknown) := fun hn hkind => iff_of_false hn hkind
  cases kind with
  | blank | comment | eval a | insert a | blockOpen loop | filename path =>
    exact ⟨_, _, rfl, rfl, hknown nofun nofun⟩
  | unknown => exact ⟨_, _, rfl, rfl, iff_of_true ⟨text, rfl⟩ rfl⟩
  | replacement a =>
    obtain ⟨hnode, hplace⟩ := pairReplacement_known b.pending a
    exact ⟨_, _, rfl, (hplace _).symm, hknown hnode nofun⟩
  | pattern mode a =>
    obtain ⟨hnode, hplace⟩ := pairPattern_known b.pending mode a
    cases mode with
    | plain => exact ⟨_, _, rfl, (hplace _).symm, hknown hnode nofun⟩
    | regex => exact ⟨_, _, rfl, (hplace _).symm, hknown hnode nofun⟩
  | normalize os =>
    refine ⟨.operation text (some (os.map .normalize)), b, ?_, rfl, hknown nofun nofun⟩
    show ((os.map Normalizer.word).mapM Normalizer.named >>= _) = _
    rw [mapM_named_word]
    rfl
  | blockClose =>
    cases hclose : b.closeBlock with
    | none =>
      refine ⟨.error "unbalanced block close", b, ?_, ?_, hknown ?_ nofun⟩
      · simp only [handle, Command.loose, CommandKind.type, hclose]
        rfl
      · simp only [command, hclose]
        rfl
      · exact Node.not_tellsUnknown_error (by decide +kernel)
    | some closed =>
      obtain ⟨o, b'⟩ := closed
      refine ⟨.operation ("pop " ++ (blockNode o).describe) none, b', ?_, ?_, hknown nofun nofun⟩
      · simp only [handle, Command.loose, CommandKind.type, hclose]
        rfl
      · simp only [command, hclose]
        rfl

end Builder

/-- **No line gives a command that cannot be handled.** Filling the places of a command from the
groups of its pattern does not slip, and they are filled as its type demands. So whatever is being
built, handling the command does not slip either; it does what the command demands, and tells that
the command is not known just when it is not. -/
theorem commands_are_handled (line : String) :
    LooseCommand.classify line = (Command.classify line).map (fun c => .ok c.loose) ∧
      ∀ c, Command.classify line = some c → c.loose.WellFilled ∧
        ∀ b : Builder, ∃ n b', b.handle c.loose = .ok (n, b') ∧ b.command c = b'.place n ∧
          (n.TellsUnknown ↔ c.kind = .unknown) :=
  ⟨LooseCommand.classify_eq line, fun c h =>
    ⟨Command.wellFilled_loose (Command.carries_of_classify h), fun b => b.handle_loose c⟩⟩

/-- A tidying command with two options. -/
def tidyingTwice : LooseCommand :=
  ⟨.said .normalize, "normalise spaces\tspaces", " ", none, none, ["spaces", "spaces"]⟩

theorem commands_are_handled_tidyingTwice :
    Command.classify " /// normalise spaces\tspaces " =
        some ⟨.normalize [.spaces, .spaces], "normalise spaces\tspaces", " "⟩ ∧
      LooseCommand.classify " /// normalise spaces\tspaces " = some (.ok tidyingTwice) ∧
      ∃ n b', Builder.handle { blocks := [⟨{}, []⟩] } tidyingTwice = .ok (n, b') ∧
        ¬n.TellsUnknown := by
  have hread : Command.classify " /// normalise spaces\tspaces " =
      some ⟨.normalize [.spaces, .spaces], "normalise spaces\tspaces", " "⟩ := by decide +kernel
  obtain ⟨hloose, hhandled⟩ := commands_are_handled " /// normalise spaces\tspaces "
  obtain ⟨-, hbuilt⟩ := hhandled _ hread
  obtain ⟨n, b', hn, -, hknown⟩ := hbuilt { blocks := [⟨{}, []⟩] }
  refine ⟨hread, ?_, n, b', hn, fun h => nomatch hknown.mp h⟩
  rw [hloose, hread]
  rfl

end Stencil
