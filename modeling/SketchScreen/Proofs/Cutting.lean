import SketchScreen.Proofs.Lexeme

/-!
# Cutting without Loss

A text that is cut into tokens is made of their lexemes, in order, and of blanks.  How its
tokens are spaced does not matter: with one blank between any two of them, the same tokens are
cut again.  A text that cannot be cut is cut up to a character at which no token starts.

## Main Definitions

- `Token.Cut`: a text as blanks and lexemes, with its tokens.
- `Token.respaced`: the lexemes of tokens with one blank between any two of them.
- `Lexeme.starts`: whether a token starts a text.

## Design Notes

`Cut` forgets that a lexeme takes as many characters as it can, so a text has many cuts, and
what is said of the places of tokens holds of all of them.  The tokens can be cut again since
each lexeme is one on its own, by `Lexeme.Spells.of_at?`: in `0xg` and `1e+` the numbers end
behind their first digits, and so they do before a blank.
-/

namespace SketchScreen

open SketchScreen.Text

namespace Lexeme

variable {text : List Char} {content : TokenContent}

/-! ## Where tokens start -/

/-- Whether a token starts a text: an operator, a digit, a point before a digit, or the first
character of a name. -/
def starts : List Char → Bool
  | [] => false
  | c :: rest =>
    (TokenContent.ofOperator? c).isSome || isDigit c
      || (c == '.' && rest.head?.any isDigit) || isNameStart c

/-- **No token is found exactly where none starts.** -/
theorem at?_eq_none_iff_starts {c : Char} {cs : List Char} :
    at? (c :: cs) = .ok none ↔ starts (c :: cs) = false := by
  have name : nameLength (c :: cs) = 0 ↔ isNameStart c = false := by
    rw [nameLength]
    split <;> simp_all
  have hex : isDigit c = false → hexLength (c :: cs) = 0 := by
    intro digit
    refine hexLength_eq_zero (.inl ?_)
    rintro rfl
    exact absurd digit (by decide)
  rw [at?_eq_none_iff, Number.numberLength_cons_eq_zero_iff, name]
  simp only [starts, Bool.or_eq_false_iff, Option.isSome_eq_false_iff,
    Option.isNone_iff_eq_none]
  constructor
  · rintro ⟨operator, -, ⟨digit, point⟩, name⟩
    exact ⟨⟨⟨operator, digit⟩, point⟩, name⟩
  · rintro ⟨⟨⟨operator, digit⟩, point⟩, name⟩
    exact ⟨operator, hex digit, ⟨digit, point⟩, name⟩

/-! ## Whole lexemes -/

/-- A text that is one token, with its content. -/
inductive Whole : List Char → TokenContent → Prop where
  | operator {c : Char} {content : TokenContent} :
      TokenContent.ofOperator? c = some content → Whole [c] content
  | operand {text : List Char} {content : TokenContent} : Spells text content →
      Whole text content

namespace Whole

theorem ne_nil (h : Whole text content) : text ≠ [] := by
  cases h with
  | operator _ => exact List.cons_ne_nil _ _
  | operand spells => exact spells.ne_nil

theorem ne_endMark (h : Whole text content) : content ≠ .endMark := by
  cases h with
  | operator operator => exact (TokenContent.isOperand_of_ofOperator? operator).2
  | operand spells =>
      rintro rfl
      cases spells.isOperand

/-- **What is cut off is a whole lexeme**, whatever follows it. -/
theorem of_at? {c : Char} {cs : List Char} {extra : Nat}
    (h : at? (c :: cs) = .ok (some ⟨content, extra⟩)) :
    Whole (c :: cs.take extra) content ∧ extra ≤ cs.length := by
  rcases at?_cases h with ⟨operator, rfl⟩ | ⟨operator, -, within⟩
  · exact ⟨.operator operator, Nat.zero_le _⟩
  · have split : at? (c :: (cs.take extra ++ cs.drop extra))
        = .ok (some ⟨content, (cs.take extra).length⟩) := by
      rw [List.take_append_drop, List.length_take_of_le within]
      exact h
    exact ⟨.operand (.of_at? operator split), within⟩

/-- A whole lexeme is one token. -/
theorem scans (h : Whole text content) (offset : Nat) :
    Token.Scans offset text [⟨content, offset, String.ofList text⟩] := by
  cases h with
  | operator operator => exact .operator_cons operator (.nil _)
  | operand spells => exact .operand spells offset

end Whole

end Lexeme

namespace Token

/-! ## Cuts -/

/-- A text that starts at an offset, as blanks and whole lexemes, with its tokens. -/
inductive Cut : Nat → List Char → List Token → Prop where
  | nil (offset : Nat) : Cut offset [] []
  | blank {offset : Nat} {c : Char} {cs : List Char} {ts : List Token} :
      isSpace c = true → Cut (offset + 1) cs ts → Cut offset (c :: cs) ts
  | token {offset : Nat} {text rest : List Char} {content : TokenContent} {ts : List Token} :
      Lexeme.Whole text content → Cut (offset + text.length) rest ts →
      Cut offset (text ++ rest) (⟨content, offset, String.ofList text⟩ :: ts)

/-- Induction along a text, with all that may be left of it behind a token. -/
theorem scanInduction {P : Nat → List Char → Prop} (nil : ∀ offset, P offset [])
    (cons : ∀ offset c cs, (∀ n, P (offset + 1 + n) (cs.drop n)) → P offset (c :: cs))
    (offset : Nat) (cs : List Char) : P offset cs := by
  induction size : cs.length using Nat.strong_induction_on generalizing offset cs with
  | _ size ih =>
      cases cs with
      | nil => exact nil offset
      | cons c cs =>
          refine cons offset c cs fun n => ih _ ?_ _ _ rfl
          rw [← size, List.length_drop, List.length_cons]
          omega

/-- Where no blank stands, a token is cut off and cutting goes on behind it. -/
theorem scanFrom_cons {c : Char} (space : isSpace c = false) (source : String) (offset : Nat)
    (cs : List Char) :
    scanFrom source offset (c :: cs) =
      match Lexeme.at? (c :: cs) with
      | .error fault => .error (.number fault)
      | .ok none => .error (.evaluation source (some (.unexpectedChar c offset)))
      | .ok (some ⟨content, extra⟩) =>
        (scanFrom source (offset + 1 + extra) (cs.drop extra)).map
          (⟨content, offset, String.ofList (c :: cs.take extra)⟩ :: ·) := by
  rw [scanFrom, if_neg (by simp [space])]
  cases Lexeme.at? (c :: cs) with
  | error fault => rfl
  | ok found =>
      cases found with
      | none => rfl
      | some token =>
          obtain ⟨content, extra⟩ := token
          dsimp only [Fault.liftNumber, Except.mapError, bind, Except.bind]
          cases scanFrom source (offset + 1 + extra) (cs.drop extra) <;> rfl

/-- **The tokens of a text are a cut of it**, closed by an end mark. -/
theorem cut_of_scanFrom {source : String} {offset : Nat} {cs : List Char} {ts : List Token}
    (h : scanFrom source offset cs = .ok ts) :
    ∃ body, ts = body ++ [⟨.endMark, offset + cs.length, ""⟩] ∧ Cut offset cs body := by
  induction offset, cs using scanInduction generalizing ts with
  | nil offset =>
      rw [scanFrom] at h
      cases h
      exact ⟨[], rfl, .nil offset⟩
  | cons offset c cs ih =>
      cases space : isSpace c with
      | true =>
          rw [scanFrom, if_pos space] at h
          obtain ⟨body, rfl, cut⟩ := ih 0 h
          exact ⟨body, by simp [Nat.add_assoc, Nat.add_comm 1], .blank space cut⟩
      | false =>
          rw [scanFrom_cons space] at h
          split at h
          · cases h
          · cases h
          · rename_i content extra lexeme
            obtain ⟨whole, within⟩ := Lexeme.Whole.of_at? lexeme
            cases following : scanFrom source (offset + 1 + extra) (cs.drop extra) with
            | error fault =>
                rw [following] at h
                cases h
            | ok tail =>
                rw [following] at h
                cases h
                obtain ⟨body, rfl, cut⟩ := ih extra following
                have place : offset + 1 + extra = offset + (c :: cs.take extra).length := by
                  rw [List.length_cons, List.length_take_of_le within]
                  omega
                have stop : offset + 1 + extra + (cs.drop extra).length
                    = offset + (c :: cs).length := by
                  rw [List.length_drop, List.length_cons]
                  omega
                rw [place] at cut
                have joined := Cut.token whole cut
                rw [List.cons_append, List.take_append_drop] at joined
                exact ⟨_ :: body, by rw [stop]; rfl, joined⟩

theorem cut_of_scan {source : String} {tokens : List Token} (h : scan source = .ok tokens) :
    ∃ body, tokens = body ++ [⟨.endMark, source.length, ""⟩] ∧ Cut 0 source.toList body := by
  obtain ⟨body, same, cut⟩ := cut_of_scanFrom h
  rw [Nat.zero_add, String.length_toList] at same
  exact ⟨body, same, cut⟩

/-- Whether a token ends before another one starts. -/
def Precedes (a b : Token) : Prop :=
  a.position < b.position ∧ a.position + a.lexeme.length ≤ b.position

/-- Whether a place of a text belongs to a token. -/
def Covers (t : Token) (n : Nat) : Prop :=
  t.position ≤ n ∧ n < t.position + t.lexeme.length

namespace Cut

variable {offset : Nat} {cs : List Char} {ts : List Token}

theorem ne_endMark (h : Cut offset cs ts) : ∀ t ∈ ts, t.content ≠ .endMark := by
  induction h with
  | nil _ => exact List.forall_mem_nil _
  | blank _ _ ih => exact ih
  | token whole _ ih => exact List.forall_mem_cons.mpr ⟨whole.ne_endMark, ih⟩

/-- The lexeme of a token is whole and stands at its place. -/
theorem exists_append (h : Cut offset cs ts) {t : Token} (mem : t ∈ ts) :
    Lexeme.Whole t.lexeme.toList t.content ∧ ∃ before behind,
      cs = before ++ (t.lexeme.toList ++ behind) ∧ t.position = offset + before.length := by
  induction h with
  | nil _ => cases mem
  | @blank _ c _ _ _ _ ih =>
      obtain ⟨whole, before, behind, rfl, place⟩ := ih mem
      refine ⟨whole, c :: before, behind, rfl, ?_⟩
      rw [place, List.length_cons]
      omega
  | @token _ text rest content _ whole _ ih =>
      rcases List.mem_cons.mp mem with rfl | mem
      · rw [String.toList_ofList]
        exact ⟨whole, [], rest, rfl, rfl⟩
      · obtain ⟨whole, before, behind, rfl, place⟩ := ih mem
        refine ⟨whole, text ++ before, behind, by rw [List.append_assoc], ?_⟩
        rw [place, List.length_append, Nat.add_assoc]

/-- **The lexeme of a token is the part of the text at its place.** -/
theorem lexeme_eq (h : Cut 0 cs ts) {t : Token} (mem : t ∈ ts) :
    t.lexeme.toList = (cs.drop t.position).take t.lexeme.length := by
  obtain ⟨-, before, behind, rfl, place⟩ := h.exists_append mem
  rw [place, Nat.zero_add, List.drop_left, ← String.length_toList, List.take_left]

/-- A token has a lexeme, and lies within the text. -/
theorem bounds (h : Cut offset cs ts) {t : Token} (mem : t ∈ ts) :
    0 < t.lexeme.length ∧ offset ≤ t.position ∧
      t.position + t.lexeme.length ≤ offset + cs.length := by
  obtain ⟨whole, before, behind, rfl, place⟩ := h.exists_append mem
  have nonempty := List.length_pos_iff.mpr whole.ne_nil
  rw [place, ← String.length_toList]
  simp only [List.length_append]
  omega

/-- **Tokens do not overlap**, and each is behind those before it. -/
theorem pairwise (h : Cut offset cs ts) : ts.Pairwise Precedes := by
  induction h with
  | nil _ => exact .nil
  | blank _ _ ih => exact ih
  | @token offset text _ _ _ whole cut ih =>
      refine List.pairwise_cons.mpr ⟨fun t mem => ?_, ih⟩
      have place := (cut.bounds mem).2.1
      have nonempty := List.length_pos_iff.mpr whole.ne_nil
      rw [Precedes, String.length_ofList]
      dsimp only
      omega

/-- **What belongs to no token is blank.** -/
theorem isSpace_of_not_covers (h : Cut offset cs ts) {n : Nat} {c : Char}
    (char : cs[n]? = some c) (outside : ∀ t ∈ ts, ¬ t.Covers (offset + n)) :
    isSpace c = true := by
  induction h generalizing n with
  | nil _ => cases char
  | @blank offset d cs ts space _ ih =>
      cases n with
      | zero =>
          cases char
          exact space
      | succ n =>
          refine ih char fun t mem => ?_
          rw [Nat.add_assoc, Nat.add_comm 1]
          exact outside t mem
  | @token offset text rest content ts whole _ ih =>
      rw [List.forall_mem_cons] at outside
      have behind : text.length ≤ n := by
        by_contra within
        refine outside.1 ⟨Nat.le_add_right offset n, ?_⟩
        rw [String.length_ofList]
        exact Nat.add_lt_add_left (Nat.lt_of_not_le within) offset
      rw [List.getElem?_append_right behind] at char
      refine ih char fun t mem => ?_
      rw [Nat.add_assoc, Nat.add_sub_cancel' behind]
      exact outside.2 t mem

end Cut

/-! ## Cutting again -/

/-- A token apart from its place. -/
def unplaced (t : Token) : TokenContent × String := (t.content, t.lexeme)

/-- The lexemes of tokens with one blank between any two of them. -/
def respaced (ts : List Token) : List Char :=
  [' '].intercalate (ts.map fun t => t.lexeme.toList)

theorem respaced_cons_cons (t next : Token) (ts : List Token) :
    respaced (t :: next :: ts) = t.lexeme.toList ++ ([' '] ++ respaced (next :: ts)) := by
  simp [respaced, List.intercalate_cons_cons]

/-- Whole lexemes are cut again from their respaced text, if it ends with what
holds no token. -/
theorem exists_scans_respaced {ts tail : List Token}
    (whole : ∀ t ∈ ts, Lexeme.Whole t.lexeme.toList t.content)
    (blank : ∀ offset, Scans offset (respaced tail) []) (offset : Nat) :
    ∃ us : List Token, us.map unplaced = ts.map unplaced ∧
      Scans offset (respaced (ts ++ tail)) us := by
  induction ts generalizing offset with
  | nil => exact ⟨[], rfl, blank offset⟩
  | cons t ts ih =>
      rw [List.forall_mem_cons] at whole
      have first := whole.1.scans offset
      rw [String.ofList_toList] at first
      rw [List.cons_append]
      cases row : ts ++ tail with
      | nil =>
          rw [(List.append_eq_nil_iff.mp row).1]
          exact ⟨[⟨t.content, offset, t.lexeme⟩], rfl, by simpa [respaced] using first⟩
      | cons next more =>
          obtain ⟨us, same, scans⟩ := ih whole.2 (offset + t.lexeme.toList.length + 1)
          rw [row] at scans
          have gap : Scans (offset + t.lexeme.toList.length)
              ([' '] ++ respaced (next :: more)) us := .blank_append rfl scans
          refine ⟨⟨t.content, offset, t.lexeme⟩ :: us, by simp [unplaced, same], ?_⟩
          rw [respaced_cons_cons]
          exact first.append gap fun _ _ => .cons (by decide) (by decide) _

/-- **Spacing does not matter**: with one blank between any two of them, the
same tokens are cut. -/
theorem Cut.exists_scan_respaced {offset : Nat} {cs : List Char} {ts tail : List Token}
    (h : Cut offset cs ts) (blank : ∀ offset, Scans offset (respaced tail) []) :
    ∃ again, scan (String.ofList (respaced (ts ++ tail))) = .ok again ∧
      again.map unplaced = ts.map unplaced ++ [(.endMark, "")] := by
  obtain ⟨us, same, scans⟩ :=
    exists_scans_respaced (fun t mem => (h.exists_append mem).1) blank 0
  exact ⟨_, scans.scan, by rw [List.map_append, same]; rfl⟩

/-! ## Texts that cannot be cut -/

/-- **A text that cannot be cut is cut up to a character at which no token starts**, and what
stands before that character can be cut. -/
theorem exists_of_scanFrom_error {source expression : String} {reason : Option ExprFault}
    {offset : Nat} {cs : List Char}
    (h : scanFrom source offset cs = .error (.evaluation expression reason)) :
    ∃ n c rest, cs.drop n = c :: rest ∧ isSpace c = false ∧
      Lexeme.at? (c :: rest) = .ok none ∧
      expression = source ∧ reason = some (.unexpectedChar c (offset + n)) ∧
      ∀ other, ∃ ts, scanFrom other offset (cs.take n) = .ok ts := by
  induction offset, cs using scanInduction with
  | nil offset =>
      rw [scanFrom] at h
      cases h
  | cons offset c cs ih =>
      cases space : isSpace c with
      | true =>
          rw [scanFrom, if_pos space] at h
          obtain ⟨n, d, rest, split, noSpace, absent, rfl, rfl, front⟩ := ih 0 h
          refine ⟨n + 1, d, rest, split, noSpace, absent, rfl, ?_, fun other => ?_⟩
          · rw [Nat.add_zero, Nat.add_assoc, Nat.add_comm 1]
          · obtain ⟨ts, cut⟩ := front other
            exact ⟨ts, by rw [List.take_succ_cons, scanFrom, if_pos space]; exact cut⟩
      | false =>
          rw [scanFrom_cons space] at h
          split at h
          · cases h
          · rename_i absent
            cases h
            exact ⟨0, c, cs, rfl, space, absent, rfl, rfl,
              fun other => ⟨_, by rw [List.take_zero, scanFrom]⟩⟩
          · rename_i content extra lexeme
            cases following : scanFrom source (offset + 1 + extra) (cs.drop extra) with
            | ok tail =>
                rw [following] at h
                cases h
            | error fault =>
                rw [following] at h
                cases h
                obtain ⟨n, d, rest, split, noSpace, absent, rfl, rfl, front⟩ :=
                  ih extra following
                refine ⟨extra + n + 1, d, rest, ?_, noSpace, absent, rfl, ?_, fun other => ?_⟩
                · rw [← split, List.drop_succ_cons, List.drop_drop]
                · have place : offset + 1 + extra + n = offset + (extra + n + 1) := by omega
                  rw [place]
                · obtain ⟨ts, cut⟩ := front other
                  have behind : (cs.take (extra + n)).drop extra
                      = (cs.drop extra).take n := by
                    rw [List.drop_take, Nat.add_sub_cancel_left]
                  rw [List.take_succ_cons, scanFrom_cons space,
                    Lexeme.at?_take lexeme (Nat.le_add_right extra n)]
                  dsimp only
                  rw [behind, cut]
                  exact ⟨_, rfl⟩

/-! ## Expressions -/

/-- **Cutting loses nothing.**  The lexemes of tokens stand in the text at their places, one
behind the other, with nothing but blanks around them; and with a blank between any two of
them the same tokens are cut again.  If a text cannot be cut, this is for a character at which
no token starts, and what stands before it can be cut. -/
theorem scan_lossless :
    (∀ (source : String) (tokens : List Token), scan source = .ok tokens →
      (∀ t ∈ tokens, t.lexeme.toList = (source.toList.drop t.position).take t.lexeme.length) ∧
      tokens.Pairwise Precedes ∧
      (∀ n c, source.toList[n]? = some c → (∀ t ∈ tokens, ¬ t.Covers n) → isSpace c = true) ∧
      tokens.getLast? = some ⟨.endMark, source.length, ""⟩ ∧
      ∀ row ∈ [tokens, tokens.dropLast], ∃ again,
        scan (String.ofList (respaced row)) = .ok again ∧
          again.map unplaced = tokens.map unplaced) ∧
    (∀ (source expression : String) (reason : Option ExprFault),
      scan source = .error (.evaluation expression reason) →
      ∃ c offset, expression = source ∧ reason = some (.unexpectedChar c offset) ∧
        source.toList[offset]? = some c ∧ isSpace c = false ∧
        Lexeme.starts (source.toList.drop offset) = false ∧
        ∃ tokens, scan (String.ofList (source.toList.take offset)) = .ok tokens) := by
  refine ⟨fun source tokens h => ?_, fun source expression reason h => ?_⟩
  · obtain ⟨body, rfl, cut⟩ := cut_of_scan h
    refine ⟨?_, ?_, fun n c char outside => ?_, List.getLast?_concat, ?_⟩
    · rw [List.forall_mem_append, List.forall_mem_singleton]
      exact ⟨fun t mem => cut.lexeme_eq mem, rfl⟩
    · refine List.pairwise_append.mpr ⟨cut.pairwise, List.pairwise_singleton _ _, ?_⟩
      simp only [List.forall_mem_singleton]
      intro t mem
      have bounds := cut.bounds mem
      rw [Nat.zero_add, String.length_toList] at bounds
      dsimp only [Precedes]
      omega
    · refine cut.isSpace_of_not_covers char fun t mem => ?_
      rw [Nat.zero_add]
      exact outside t (List.mem_append_left _ mem)
    · rw [List.dropLast_concat, List.map_append, List.forall_mem_cons,
        List.forall_mem_singleton]
      have bare : ∀ offset, Scans offset (respaced []) [] := .nil
      have marked : ∀ offset, Scans offset (respaced [⟨.endMark, source.length, ""⟩]) [] :=
        .nil
      have again := cut.exists_scan_respaced bare
      rw [List.append_nil] at again
      exact ⟨cut.exists_scan_respaced marked, again⟩
  · obtain ⟨n, c, rest, split, space, absent, rfl, rfl, front⟩ := exists_of_scanFrom_error h
    obtain ⟨tokens, cut⟩ := front (String.ofList (expression.toList.take n))
    rw [Nat.zero_add]
    refine ⟨c, n, rfl, rfl, ?_, space, ?_, tokens, ?_⟩
    · rw [← List.head?_drop, split, List.head?_cons]
    · rw [split]
      exact Lexeme.at?_eq_none_iff_starts.mp absent
    · rw [scan, String.toList_ofList]
      exact cut

/-- In `0x1e+2 1e` no letter marks an exponent, whatever the blanks, and `1e+ .x` can
be cut up to the point. -/
theorem scan_lossless_exponent_marks :
    (∃ again, scan "0x1e + 2 1 e" = .ok again ∧ again.map unplaced =
      [(.int 30, "0x1e"), (.plus, "+"), (.int 2, "2"), (.int 1, "1"), (.name "e", "e"),
        (.endMark, "")]) ∧
    ∃ tokens, scan "1e+ " = .ok tokens := by
  constructor
  · have cut : scan "0x1e+2 1e" = .ok [⟨.int 30, 0, "0x1e"⟩, ⟨.plus, 4, "+"⟩,
        ⟨.int 2, 5, "2"⟩, ⟨.int 1, 7, "1"⟩, ⟨.name "e", 8, "e"⟩, ⟨.endMark, 9, ""⟩] := by
      decide +kernel
    have text : String.ofList (respaced [⟨.int 30, 0, "0x1e"⟩, ⟨.plus, 4, "+"⟩,
        ⟨.int 2, 5, "2"⟩, ⟨.int 1, 7, "1"⟩, ⟨.name "e", 8, "e"⟩]) = "0x1e + 2 1 e" := by
      decide
    have again := (scan_lossless.1 _ _ cut).2.2.2.2 _ (.tail _ (.head _))
    rw [← text]
    exact again
  · obtain ⟨c, offset, -, same, -, -, -, front⟩ :=
      scan_lossless.2 "1e+ .x" "1e+ .x" (some (.unexpectedChar '.' 4)) (by decide +kernel)
    cases same
    exact front

end Token

end SketchScreen
