import SketchScreen.Proofs.Lexeme
import SketchScreen.Statement

/-!
# Forms of Lines

A line is a declaration if it can be cut into a keyword, blanks, a name, an equals sign with
or without blanks before it, and something behind it.  There is one way at most to do so.
Otherwise it is a call if the receiver, a word and an opening parenthesis stand anywhere in
it, with a closing one behind them.  Of several such places the leftmost counts, and the
arguments reach to the last closing parenthesis.

## Main Definitions

- `Statement.DeclarationForm`: the parts of a declaration.
- `Statement.CallForm`: the parts of a line that holds a call.

## Design Notes

Blanks and word characters are taken for as long as there are any, and never given back.  That
loses no declaration, since each part of one ends before a character that cannot belong to it;
by `append_inj_of_stop`, this is also why the parts are unique.
-/

namespace SketchScreen

open SketchScreen.Text

/-- Where a class of characters ends, a text can be cut in one way only. -/
theorem Text.append_inj_of_stop {p : Char → Bool} {cs rest ds rest' : List Char}
    (h : cs ++ rest = ds ++ rest') (all : ∀ c ∈ cs, p c = true)
    (stop : ∀ c ∈ rest.head?, p c = false) (all' : ∀ c ∈ ds, p c = true)
    (stop' : ∀ c ∈ rest'.head?, p c = false) : cs = ds ∧ rest = rest' := by
  have same : cs = ds := by
    rw [← takeWhile_append_of_head? all stop, h, takeWhile_append_of_head? all' stop']
  subst same
  exact ⟨rfl, List.append_cancel_left h⟩

/-- What is cut off as a name is one. -/
theorem Lexeme.isName_take_nameLength {cs : List Char} (h : nameLength cs ≠ 0) :
    isName (cs.take (nameLength cs)) = true := by
  cases cs with
  | nil => exact absurd rfl h
  | cons c cs =>
      rw [nameLength] at h ⊢
      split at h
      · rename_i start
        have taken : cs.take (cs.takeWhile isWord).length = cs.takeWhile isWord :=
          (List.prefix_iff_eq_take.mp (List.takeWhile_prefix _)).symm
        rw [if_pos start, Nat.add_comm, List.take_succ_cons, taken, isName, start,
          List.all_takeWhile]
        rfl
      · exact absurd rfl h

namespace Statement

/-! ## Parts of lines -/

/-- The parts of a declaration. -/
@[ext]
structure DeclarationForm where
  /-- The keyword. -/
  kind : String
  /-- The blanks behind the keyword. -/
  gap : List Char
  name : List Char
  /-- The blanks before the equals sign. -/
  gap' : List Char
  /-- What stands behind the equals sign. -/
  value : List Char
  known : kind ∈ typeKeywords
  gap_ne_nil : gap ≠ []
  blank : isBlank gap = true
  named : isName name = true
  blank' : isBlank gap' = true
  value_ne_nil : value ≠ []

/-- The line that is made of the parts of a declaration. -/
def DeclarationForm.text (form : DeclarationForm) : List Char :=
  form.kind.toList ++ (form.gap ++ (form.name ++ (form.gap' ++ '=' :: form.value)))

/-- The declaration with given parts. -/
def DeclarationForm.statement (form : DeclarationForm) : Statement :=
  .declaration form.kind (String.ofList form.name) (String.ofList (trim form.value))

/-- The parts of a line that holds a call. -/
structure CallForm where
  /-- What stands before the receiver. -/
  before : List Char
  command : List Char
  /-- What stands between the parentheses. -/
  arguments : List Char
  /-- What stands behind the last closing parenthesis. -/
  behind : List Char
  command_ne_nil : command ≠ []
  word : ∀ c ∈ command, isWord c = true
  last : ')' ∉ behind

/-- The line that is made of the parts around a call. -/
def CallForm.text (form : CallForm) : List Char :=
  form.before ++
    (receiver ++ (form.command ++ '(' :: (form.arguments ++ ')' :: form.behind)))

/-- The call with given parts. -/
def CallForm.statement (form : CallForm) : Statement :=
  .call (String.ofList form.command) (String.ofList form.arguments)

/-! ## Declarations -/

theorem isWord_of_mem_typeKeywords {kind : String} (h : kind ∈ typeKeywords) :
    ∀ c ∈ kind.toList, isWord c = true := by
  have table : (typeKeywords.all fun kind => kind.toList.all isWord) = true := by decide
  exact List.all_eq_true.mp (List.all_eq_true.mp table kind h)

theorem toList_ne_nil_of_mem_typeKeywords {kind : String} (h : kind ∈ typeKeywords) :
    kind.toList ≠ [] := by
  have table : ∀ kind ∈ typeKeywords, kind.toList ≠ [] := by decide
  exact table kind h

/-- What follows a text at the start of another. -/
theorem dropStart?_eq_some_iff {start cs rest : List Char} :
    dropStart? start cs = some rest ↔ cs = start ++ rest := by
  unfold dropStart?
  split
  · rename_i isPrefix
    obtain ⟨tail, rfl⟩ := List.isPrefixOf_iff_prefix.mp isPrefix
    simp
  · rename_i isPrefix
    refine iff_of_false (by simp) ?_
    rintro rfl
    exact isPrefix (by simp)

theorem isWord_eq_false_of_head?_isSpace {rest : List Char}
    (h : rest.head?.any isSpace = true) : ∀ c ∈ rest.head?, isWord c = false := by
  intro c mem
  rw [Option.mem_def.mp mem] at h
  exact isWord_eq_false_of_isSpace h

/-- **The keyword of a line** is the word that it starts with, if a blank follows. -/
theorem takeKeyword?_eq_some_iff {cs rest : List Char} {kind : String} :
    takeKeyword? cs = some (kind, rest) ↔
      kind ∈ typeKeywords ∧ cs = kind.toList ++ rest ∧ rest.head?.any isSpace = true := by
  have sound : ∀ {kind rest}, takeKeyword? cs = some (kind, rest) →
      kind ∈ typeKeywords ∧ cs = kind.toList ++ rest ∧ rest.head?.any isSpace = true := by
    intro kind rest h
    obtain ⟨keyword, known, found⟩ := List.exists_of_findSome?_eq_some h
    obtain ⟨tail, dropped, found⟩ := Option.bind_eq_some_iff.mp found
    split at found
    · rename_i blank
      cases found
      exact ⟨known, dropStart?_eq_some_iff.mp dropped, blank⟩
    · cases found
  refine ⟨sound, fun ⟨known, split, blank⟩ => ?_⟩
  have isSome : (takeKeyword? cs).isSome = true := by
    refine List.findSome?_isSome_iff.mpr ⟨kind, known, ?_⟩
    simp [dropStart?_eq_some_iff.mpr split, blank]
  obtain ⟨⟨kind', rest'⟩, found⟩ := Option.isSome_iff_exists.mp isSome
  obtain ⟨known', split', blank'⟩ := sound found
  obtain ⟨same, rfl⟩ := append_inj_of_stop (split.symm.trans split')
    (isWord_of_mem_typeKeywords known) (isWord_eq_false_of_head?_isSpace blank)
    (isWord_of_mem_typeKeywords known') (isWord_eq_false_of_head?_isSpace blank')
  rw [found, String.toList_injective same]

/-- On a line, whatever stands behind the equals sign is an initial value. -/
theorem initialValue?_of_oneLine {cs : List Char} (h : '\n' ∉ cs) :
    initialValue? cs = if cs = [] then none else some (trim cs) := by
  have final : dropFinalNewline cs = cs := by
    refine if_neg fun newline => h (List.mem_of_mem_getLast? ?_)
    simpa using newline
  by_cases empty : cs = []
  · subst empty
    rfl
  · have length := List.length_pos_iff.mpr empty
    simp only [initialValue?, final, if_neg empty]
    -- a blank is left to be the value of a line that ends with blanks only
    split
    · have back : '\n' ∉ cs.drop (cs.length - 1) := fun mem => h (List.mem_of_mem_drop mem)
      have rest : cs.drop (cs.length - 1) ≠ [] := by
        rw [Ne, List.drop_eq_nil_iff]
        omega
      simp [back, rest]
    · rename_i blank
      have back : '\n' ∉ trimLeft cs := fun mem => h ((List.dropWhile_suffix _).mem mem)
      have rest : trimLeft cs ≠ [] := by
        simpa [trimLeft, List.dropWhile_eq_nil_iff, isBlank] using blank
      simp [back, rest]

/-- A name starts with no blank. -/
theorem isSpace_eq_false_of_isName {name rest : List Char} (h : isName name = true) :
    ∀ c ∈ (name ++ rest).head?, isSpace c = false := by
  cases name with
  | nil => cases h
  | cons first name =>
      rintro c ⟨⟩
      exact isSpace_eq_false_of_isWord (Lexeme.isWord_of_isName h List.mem_cons_self)

namespace DeclarationForm

variable (form : DeclarationForm)

/-- What follows the keyword starts with a blank. -/
theorem head?_gap_append (rest : List Char) :
    (form.gap ++ rest).head?.any isSpace = true := by
  obtain ⟨c, gap, split⟩ := List.exists_cons_of_ne_nil form.gap_ne_nil
  have blank := form.blank
  rw [split, isBlank, List.all_cons, Bool.and_eq_true] at blank
  rw [split]
  exact blank.1

/-- The name ends before what follows it. -/
theorem isBoundary : Token.IsBoundary (form.gap' ++ '=' :: form.value) :=
  .blank_append form.blank' (.cons (by decide) (by decide) _)

/-- The equals sign is no blank. -/
theorem isSpace_equals : ∀ c ∈ ('=' :: form.value).head?, isSpace c = false := by
  rintro c ⟨⟩
  decide

/-- **The parts of a declaration are unique**: each ends before a character of
another class. -/
theorem text_injective : Function.Injective text := by
  intro form other h
  obtain ⟨kind, h⟩ := append_inj_of_stop h (isWord_of_mem_typeKeywords form.known)
    (isWord_eq_false_of_head?_isSpace (form.head?_gap_append _))
    (isWord_of_mem_typeKeywords other.known)
    (isWord_eq_false_of_head?_isSpace (other.head?_gap_append _))
  obtain ⟨gap, h⟩ := append_inj_of_stop h (List.all_eq_true.mp form.blank)
    (isSpace_eq_false_of_isName form.named) (List.all_eq_true.mp other.blank)
    (isSpace_eq_false_of_isName other.named)
  obtain ⟨name, h⟩ := append_inj_of_stop h (fun c => Lexeme.isWord_of_isName form.named)
    (fun c mem => (form.isBoundary c mem).1) (fun c => Lexeme.isWord_of_isName other.named)
    (fun c mem => (other.isBoundary c mem).1)
  obtain ⟨gap', h⟩ := append_inj_of_stop h (List.all_eq_true.mp form.blank')
    form.isSpace_equals (List.all_eq_true.mp other.blank') other.isSpace_equals
  exact DeclarationForm.ext (String.toList_injective kind) gap name gap' (List.cons.inj h).2

theorem nameLength_append :
    Lexeme.nameLength (form.name ++ (form.gap' ++ '=' :: form.value)) = form.name.length := by
  have named := form.named
  rw [Lexeme.nameLength_append form.isBoundary]
  cases split : form.name with
  | nil =>
      rw [split] at named
      cases named
  | cons c name => exact Lexeme.nameLength_eq_length_iff.mpr (split ▸ named)

/-- **A line with the parts of a declaration is one.** -/
theorem declaration?_text (oneLine : '\n' ∉ form.text) :
    declaration? form.text = some form.statement := by
  have value : '\n' ∉ form.value := fun mem => oneLine (by simp [text, mem])
  have keyword : takeKeyword? form.text
      = some (form.kind, form.gap ++ (form.name ++ (form.gap' ++ '=' :: form.value))) :=
    takeKeyword?_eq_some_iff.mpr ⟨form.known, rfl, form.head?_gap_append _⟩
  have nonempty : form.name.length ≠ 0 := by
    rw [Ne, List.length_eq_zero_iff]
    intro empty
    have named := form.named
    rw [empty] at named
    cases named
  rw [declaration?, keyword]
  simp only [Option.bind_eq_bind, Option.bind_some, trimLeft_blank_append form.blank,
    trimLeft_eq_self (isSpace_eq_false_of_isName form.named), nameLength_append, nonempty,
    if_false, List.drop_left, trimLeft_blank_append form.blank',
    trimLeft_eq_self form.isSpace_equals, initialValue?_of_oneLine value, form.value_ne_nil,
    List.take_left]
  rfl

/-- **A declaration has its parts.** -/
theorem exists_of_declaration? {line : List Char} {statement : Statement}
    (oneLine : '\n' ∉ line) (h : declaration? line = some statement) :
    ∃ form : DeclarationForm, form.text = line ∧ form.statement = statement := by
  obtain ⟨⟨kind, rest⟩, keyword, found⟩ := Option.bind_eq_some_iff.mp h
  obtain ⟨known, rfl, first⟩ := takeKeyword?_eq_some_iff.mp keyword
  dsimp only at found
  split at found
  · cases found
  · rename_i length
    split at found
    · rename_i value equals
      obtain ⟨expression, initial, result⟩ := Option.bind_eq_some_iff.mp found
      cases result
      obtain ⟨gap, blank, front⟩ := exists_blank_append_trimLeft rest
      obtain ⟨gap', blank', back⟩ :=
        exists_blank_append_trimLeft ((trimLeft rest).drop
          (Lexeme.nameLength (trimLeft rest)))
      rw [equals] at back
      have body : (trimLeft rest).take (Lexeme.nameLength (trimLeft rest)) ++
          (gap' ++ '=' :: value) = trimLeft rest := by rw [← back, List.take_append_drop]
      have whole : kind.toList ++ (gap ++
          ((trimLeft rest).take (Lexeme.nameLength (trimLeft rest))
            ++ (gap' ++ '=' :: value)))
          = kind.toList ++ rest := by rw [body, ← front]
      have value_oneLine : '\n' ∉ value := by
        intro mem
        rw [← whole] at oneLine
        exact oneLine (by simp [mem])
      have gap_ne_nil : gap ≠ [] := by
        rintro rfl
        rw [front, List.nil_append] at first
        cases head : (trimLeft rest).head? with
        | none => simp [head] at first
        | some c => simp [head, isSpace_of_mem_head?_trimLeft head] at first
      rw [initialValue?_of_oneLine value_oneLine] at initial
      split at initial
      · cases initial
      · rename_i value_ne_nil
        cases initial
        exact ⟨⟨kind, gap, _, gap', value, known, gap_ne_nil, blank,
          Lexeme.isName_take_nameLength length, blank', value_ne_nil⟩, whole, rfl⟩
    · cases found

theorem declaration?_eq_some_iff {line : List Char} {statement : Statement}
    (oneLine : '\n' ∉ line) : declaration? line = some statement ↔
      ∃ form : DeclarationForm, form.text = line ∧ form.statement = statement := by
  refine ⟨exists_of_declaration? oneLine, ?_⟩
  rintro ⟨form, rfl, rfl⟩
  exact form.declaration?_text oneLine

end DeclarationForm

/-! ## Calls -/

/-- What stands before the last closing parenthesis. -/
theorem beforeLastParen?_eq_some_iff {cs front : List Char} :
    beforeLastParen? cs = some front ↔ ∃ back, cs = front ++ ')' :: back ∧ ')' ∉ back := by
  unfold beforeLastParen?
  constructor
  · intro h
    split at h
    · cases h
    · rename_i paren rest found
      cases h
      have split := List.takeWhile_append_dropWhile (p := (· != ')')) (l := cs.reverse)
      have isParen := List.head?_dropWhile_not (· != ')') cs.reverse
      rw [found] at split isParen
      obtain rfl : paren = ')' := by simpa using isParen
      refine ⟨(cs.reverse.takeWhile (· != ')')).reverse, ?_, fun mem => ?_⟩
      · have reversed := congrArg List.reverse split
        simpa using reversed.symm
      · have other := List.mem_takeWhile_imp (List.mem_reverse.mp mem)
        simp at other
  · rintro ⟨back, rfl, last⟩
    have all : ∀ c ∈ back.reverse, (c != ')') = true := by
      intro c mem
      rw [bne_iff_ne]
      rintro rfl
      exact last (List.mem_reverse.mp mem)
    have found : (back.reverse ++ ')' :: front.reverse).dropWhile (· != ')')
        = ')' :: front.reverse :=
      dropWhile_append_of_head? all (by simp)
    simp [found]

namespace CallForm

/-- **A call at the start of a line** has its parts, with nothing before the receiver. -/
theorem callAt?_eq_some_iff {cs : List Char} {statement : Statement} (oneLine : '\n' ∉ cs) :
    callAt? cs = some statement ↔
      ∃ form : CallForm, form.before = [] ∧ form.text = cs ∧ form.statement = statement := by
  have line : ∀ {rest : List Char}, '\n' ∉ rest → rest.takeWhile (· != '\n') = rest := by
    intro rest oneLine
    rw [List.takeWhile_eq_self_iff]
    intro c mem
    rw [bne_iff_ne]
    rintro rfl
    exact oneLine mem
  constructor
  · intro h
    obtain ⟨rest, dropped, found⟩ := Option.bind_eq_some_iff.mp h
    obtain rfl := dropStart?_eq_some_iff.mp dropped
    dsimp only at found
    split at found
    · cases found
    · rename_i nonempty
      split at found
      · rename_i inner opened
        obtain ⟨arguments, closed, result⟩ := Option.bind_eq_some_iff.mp found
        cases result
        have split := List.takeWhile_append_dropWhile (p := isWord) (l := rest)
        rw [opened] at split
        have inner_oneLine : '\n' ∉ inner := by
          intro mem
          rw [← split] at oneLine
          exact oneLine (by simp [mem])
        rw [line inner_oneLine] at closed
        obtain ⟨behind, rfl, last⟩ := beforeLastParen?_eq_some_iff.mp closed
        exact ⟨⟨[], _, arguments, behind, by simpa using nonempty, fun c =>
          List.mem_takeWhile_imp, last⟩, rfl, by rw [text, split]; rfl, rfl⟩
      · cases found
  · rintro ⟨⟨before, command, arguments, behind, nonempty, all, last⟩, rfl, rfl, rfl⟩
    have parenthesis : ∀ c ∈ ('(' :: (arguments ++ ')' :: behind)).head?,
        isWord c = false := by
      rintro c ⟨⟩
      decide
    have inner_oneLine : '\n' ∉ arguments ++ ')' :: behind := fun mem =>
      oneLine (by
        simp only [text, List.nil_append, List.mem_append, List.mem_cons] at mem ⊢
        tauto)
    have dropped : dropStart? receiver
        (receiver ++ (command ++ '(' :: (arguments ++ ')' :: behind))) = some _ :=
      dropStart?_eq_some_iff.mpr rfl
    have closed : beforeLastParen? (arguments ++ ')' :: behind) = some arguments :=
      beforeLastParen?_eq_some_iff.mpr ⟨behind, rfl, last⟩
    simp only [text, List.nil_append, callAt?, dropped, Option.bind_eq_bind, Option.bind_some,
      takeWhile_append_of_head? all parenthesis, dropWhile_append_of_head? all parenthesis,
      line inner_oneLine, closed]
    simp [nonempty, statement]

/-- The same call with one more character before it. -/
def shift (c : Char) (form : CallForm) : CallForm :=
  { form with before := c :: form.before }

/-- A call that does not begin at the start of a line is a call in the rest of the line. -/
theorem exists_eq_shift {form : CallForm} {c : Char} {rest : List Char}
    (h : form.text = c :: rest) (later : form.before ≠ []) :
    ∃ inner : CallForm, inner.text = rest ∧ form = inner.shift c := by
  obtain ⟨before, command, arguments, behind, nonempty, word, last⟩ := form
  obtain ⟨d, before, rfl⟩ := List.exists_cons_of_ne_nil later
  obtain ⟨rfl, rfl⟩ := List.cons_eq_cons.mp h
  exact ⟨⟨before, command, arguments, behind, nonempty, word, last⟩, rfl, rfl⟩

/-- A call before which no other begins in the same line. -/
def IsFirst (form : CallForm) : Prop :=
  ∀ other : CallForm, other.text = form.text → form.before.length ≤ other.before.length

theorem exists_isFirst (form : CallForm) :
    ∃ first : CallForm, first.text = form.text ∧ first.IsFirst := by
  induction length : form.before.length using Nat.strong_induction_on generalizing form with
  | _ n ih =>
      subst length
      by_cases leftmost : form.IsFirst
      · exact ⟨form, rfl, leftmost⟩
      · simp only [IsFirst, not_forall, not_le] at leftmost
        obtain ⟨other, text, shorter⟩ := leftmost
        obtain ⟨first, same, leftmost⟩ := ih _ shorter other rfl
        exact ⟨first, same.trans text, leftmost⟩

/-- **The leftmost call of a line**, by induction on where it may begin. -/
theorem call?_eq_some_iff {line : List Char} {statement : Statement} (oneLine : '\n' ∉ line) :
    call? line = some statement ↔
      ∃ form : CallForm, form.text = line ∧ form.IsFirst ∧ form.statement = statement := by
  induction line with
  | nil =>
      refine iff_of_false (by simp [call?]) ?_
      rintro ⟨form, empty, -⟩
      simp [text, receiver] at empty
  | cons c rest ih =>
      have here := fun statement => @callAt?_eq_some_iff (c :: rest) statement oneLine
      rw [call?]
      cases at? : callAt? (c :: rest) with
      | some found =>
          obtain ⟨form, start, same, rfl⟩ := (here found).mp at?
          rw [Option.some_or]
          constructor
          · rintro ⟨⟩
            exact ⟨form, same, fun other _ => by simp [start], rfl⟩
          · rintro ⟨other, same', first, rfl⟩
            have start' : other.before = [] := by
              have length := first form (same.trans same'.symm)
              simpa [start] using length
            rw [← at?, here]
            exact ⟨other, start', same', rfl⟩
      | none =>
          have later : ∀ form : CallForm, form.text = c :: rest → form.before ≠ [] := by
            intro form same start
            have found := (here form.statement).mpr ⟨form, start, same, rfl⟩
            rw [at?] at found
            cases found
          rw [Option.none_or, ih fun mem => oneLine (List.mem_cons_of_mem c mem)]
          constructor
          · rintro ⟨form, rfl, first, rfl⟩
            refine ⟨form.shift c, rfl, fun other same => ?_, rfl⟩
            obtain ⟨inner, text, rfl⟩ := exists_eq_shift same (later other same)
            exact Nat.succ_le_succ (first inner text)
          · rintro ⟨form, same, first, rfl⟩
            obtain ⟨inner, rfl, rfl⟩ := exists_eq_shift same (later form same)
            refine ⟨inner, rfl, fun other text => ?_, rfl⟩
            exact Nat.le_of_succ_le_succ (first (other.shift c) (congrArg (c :: ·) text))

/-- If some closing parenthesis follows, then there is a last one. -/
theorem exists_text_eq {before command inner behind : List Char} (nonempty : command ≠ [])
    (word : ∀ c ∈ command, isWord c = true) :
    ∃ form : CallForm, form.text
      = before ++ (receiver ++ (command ++ '(' :: (inner ++ ')' :: behind))) := by
  have mem : ')' ∈ (inner ++ ')' :: behind).reverse := by simp
  obtain ⟨back, front, split, last⟩ := List.eq_append_cons_of_mem mem
  have whole : front.reverse ++ ')' :: back.reverse = inner ++ ')' :: behind := by
    rw [← List.reverse_inj, split]
    simp
  exact ⟨⟨before, command, front.reverse, back.reverse, nonempty, word, by simpa using last⟩,
    by rw [text, whole]⟩

end CallForm

/-! ## Lines -/

/-- A line is a declaration, or else a call. -/
theorem classify_eq_some_iff {line : List Char} {statement : Statement} :
    classify line = some statement ↔ declaration? line = some statement ∨
      declaration? line = none ∧ call? line = some statement := by
  rw [classify, Option.or_eq_some_iff]

theorem declaration?_eq_none_iff {line : List Char} (oneLine : '\n' ∉ line) :
    declaration? line = none ↔ ∀ form : DeclarationForm, form.text ≠ line := by
  rw [Option.eq_none_iff_forall_ne_some]
  constructor
  · rintro none form rfl
    exact none form.statement (form.declaration?_text oneLine)
  · intro other statement found
    obtain ⟨form, text, -⟩ := (DeclarationForm.declaration?_eq_some_iff oneLine).mp found
    exact other form text

/-- Declarations and calls do not mix: a declaration is read from its parts. -/
theorem classify_eq_declaration_iff {line : List Char} {kind name expression : String}
    (oneLine : '\n' ∉ line) :
    classify line = some (.declaration kind name expression) ↔
      ∃ form : DeclarationForm, form.text = line ∧ form.kind = kind ∧
        String.ofList form.name = name ∧ String.ofList (trim form.value) = expression := by
  have parts : ∀ form : DeclarationForm, form.statement = .declaration kind name expression ↔
      form.kind = kind ∧ String.ofList form.name = name ∧
        String.ofList (trim form.value) = expression := by
    intro form
    rw [DeclarationForm.statement, declaration.injEq]
  rw [classify_eq_some_iff, DeclarationForm.declaration?_eq_some_iff oneLine,
    CallForm.call?_eq_some_iff oneLine]
  constructor
  · rintro (⟨form, text, same⟩ | ⟨-, form, -, -, same⟩)
    · exact ⟨form, text, (parts form).mp same⟩
    · cases same
  · rintro ⟨form, text, same⟩
    exact .inl ⟨form, text, (parts form).mpr same⟩

/-- A call is read from its parts, in a line that has no parts of a declaration. -/
theorem classify_eq_call_iff {line : List Char} {command arguments : String}
    (oneLine : '\n' ∉ line) :
    classify line = some (.call command arguments) ↔
      (∀ form : DeclarationForm, form.text ≠ line) ∧
        ∃ form : CallForm, form.text = line ∧ form.IsFirst ∧
          String.ofList form.command = command ∧
          String.ofList form.arguments = arguments := by
  have parts : ∀ form : CallForm, form.statement = .call command arguments ↔
      String.ofList form.command = command ∧ String.ofList form.arguments = arguments := by
    intro form
    rw [CallForm.statement, call.injEq]
  rw [classify_eq_some_iff, declaration?_eq_none_iff oneLine,
    DeclarationForm.declaration?_eq_some_iff oneLine, CallForm.call?_eq_some_iff oneLine]
  constructor
  · rintro (⟨form, -, same⟩ | ⟨other, form, text, first, same⟩)
    · cases same
    · exact ⟨other, form, text, first, (parts form).mp same⟩
  · rintro ⟨other, form, text, first, same⟩
    exact .inr ⟨other, form, text, first, (parts form).mpr same⟩

/-- A line that is neither a declaration nor a call has the parts of neither. -/
theorem classify_eq_none_iff {line : List Char} (oneLine : '\n' ∉ line) :
    classify line = none ↔
      (∀ form : DeclarationForm, form.text ≠ line) ∧ ∀ form : CallForm, form.text ≠ line := by
  rw [classify, Option.or_eq_none_iff, declaration?_eq_none_iff oneLine]
  refine and_congr_right fun _ => ?_
  rw [Option.eq_none_iff_forall_ne_some]
  constructor
  · rintro none form text
    obtain ⟨first, same, leftmost⟩ := form.exists_isFirst
    exact none first.statement
      ((CallForm.call?_eq_some_iff oneLine).mpr ⟨first, same.trans text, leftmost, rfl⟩)
  · intro other statement found
    obtain ⟨form, text, -⟩ := (CallForm.call?_eq_some_iff oneLine).mp found
    exact other form text

/-- No declaration starts with the receiver. -/
theorem DeclarationForm.text_ne_receiver_append (form : DeclarationForm) (rest : List Char) :
    form.text ≠ receiver ++ rest := by
  intro same
  have head : ∀ kind ∈ typeKeywords, kind.toList.head? ≠ some 't' := by decide
  have first : form.text.head? = some 't' := congrArg List.head? same
  rw [text, List.head?_append_of_ne_nil _
    (toList_ne_nil_of_mem_typeKeywords form.known)] at first
  exact head _ form.known first

/-- **A call is recognised**, whatever its arguments are. -/
theorem classify_call {command arguments : List Char} (nonempty : command ≠ [])
    (word : ∀ c ∈ command, isWord c = true) (oneLine : '\n' ∉ arguments) :
    classify (receiver ++ (command ++ '(' :: (arguments ++ [')'])))
      = some (.call (String.ofList command) (String.ofList arguments)) := by
  have newline : '\n' ∉ receiver ++ (command ++ '(' :: (arguments ++ [')'])) := by
    have other : '\n' ∉ command := fun mem => absurd (word _ mem) (by decide)
    have absent : '\n' ∉ receiver := by decide
    simp [other, absent, oneLine]
  rw [classify_eq_call_iff newline]
  exact ⟨fun form => form.text_ne_receiver_append _,
    ⟨[], command, arguments, [], nonempty, word, by simp⟩, rfl, fun other _ => Nat.zero_le _,
    rfl, rfl⟩

/-- **What a line is.**  It is a declaration if it has the parts of one, which are
then unique.  Else it is the leftmost call in it, with arguments up to the last
closing parenthesis, and else it is nothing.  So a call that is written out is
read as it was written. -/
theorem classify_iff_forms :
    (∀ line : List Char, '\n' ∉ line →
      (∀ kind name expression, classify line = some (.declaration kind name expression) ↔
        ∃ form : DeclarationForm, form.text = line ∧ form.kind = kind ∧
          String.ofList form.name = name ∧ String.ofList (trim form.value) = expression) ∧
      (∀ form other : DeclarationForm, form.text = line → other.text = line → form = other) ∧
      (∀ command arguments, classify line = some (.call command arguments) ↔
        (∀ form : DeclarationForm, form.text ≠ line) ∧
          ∃ form : CallForm, form.text = line ∧ form.IsFirst ∧
            String.ofList form.command = command ∧ String.ofList form.arguments = arguments) ∧
      (classify line = none ↔
        (∀ form : DeclarationForm, form.text ≠ line) ∧
          ∀ before command inner behind, command ≠ [] → (∀ c ∈ command, isWord c = true) →
            line ≠ before ++ (receiver ++ (command ++ '(' :: (inner ++ ')' :: behind))))) ∧
    (∀ command arguments : List Char, command ≠ [] → (∀ c ∈ command, isWord c = true) →
      '\n' ∉ arguments →
        classify (receiver ++ (command ++ '(' :: (arguments ++ [')'])))
          = some (.call (String.ofList command) (String.ofList arguments))) := by
  refine ⟨fun line oneLine => ⟨fun kind name expression =>
    classify_eq_declaration_iff oneLine,
    fun form other text text' => DeclarationForm.text_injective (text.trans text'.symm),
    fun command arguments => classify_eq_call_iff oneLine, ?_⟩,
    fun command arguments nonempty word oneLine => classify_call nonempty word oneLine⟩
  rw [classify_eq_none_iff oneLine]
  refine and_congr_right fun _ => ?_
  constructor
  · rintro other before command inner behind nonempty word rfl
    obtain ⟨form, text⟩ := CallForm.exists_text_eq nonempty word
    exact other form text
  · rintro other form rfl
    exact other form.before form.command form.arguments form.behind form.command_ne_nil
      form.word
      rfl

/-- A call inside a declaration is none, and the leftmost call may hold another one. -/
theorem classify_iff_forms_nested :
    (∃ form : DeclarationForm, form.text = "int a=tft.x(1)".toList ∧ form.kind = "int" ∧
      String.ofList form.name = "a" ∧ String.ofList (trim form.value) = "tft.x(1)") ∧
    ∃ form : CallForm, form.text = "a tft.tft.x(y)(z) tft.w()b".toList ∧ form.IsFirst ∧
      String.ofList form.command = "x" ∧ String.ofList form.arguments = "y)(z) tft.w(" :=
  ⟨((classify_iff_forms.1 _ (by decide)).1 _ _ _).mp (by decide),
    (((classify_iff_forms.1 _ (by decide)).2.2.1 _ _).mp (by decide)).2⟩

end Statement

end SketchScreen
