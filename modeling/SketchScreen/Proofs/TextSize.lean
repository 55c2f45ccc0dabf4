import SketchScreen.Proofs.Binding
import SketchScreen.Proofs.ExactValue
import SketchScreen.Proofs.Surfaces

/-!
# The Size of Texts

Whatever a sketch asks for, its texts have a size from 1 to 10: that of the last call
that set it, brought into range.  And every text is drawn in glyphs of eight times
the size at that moment.

## Main Definitions

- `Call`, `Transcript`: a call of a command by its name, and calls with how each
  of them ended.
- `Machine.runCalls`, `Machine.transcript`: the machine after some calls, and
  their transcript.
- `Sketch.transcript`: the transcript of the calls that statements make.
- `Transcript.size`: the size of texts after a transcript, as an exact number.

## Design Notes

`Machine.SizeTold` is the invariant: the size is the one that the transcript so far
tells.  A single call keeps it, with itself added to the transcript (`SizeTold.invoke`);
runs of calls and runs of statements have it by induction.  What a call draws is read off
the log of `Surface.logging`.
-/

namespace SketchScreen

/-! ## Sizes brought into range -/

namespace TextStyle

/-- The size that texts get when a size is asked for: the nearest one from 1 to 10, and the
greatest if what is asked for is not a number. -/
def sizeFor : Number → ℚ
  | .int n => max 1 (min 10 n)
  | .float x =>
    match Number.Binary.ofFloat x with
    | .nan => 10
    | .infinite negative => if negative then 1 else 10
    | .finite negative mantissa exponent =>
      max 1 (min 10 (Number.Binary.dyadic negative mantissa exponent))

theorem sizeFor_mem_Icc (n : Number) : sizeFor n ∈ Set.Icc 1 10 := by
  have between : ∀ q : ℚ, max 1 (min 10 q) ∈ Set.Icc (1 : ℚ) 10 := fun q =>
    ⟨le_max_left .., max_le (by norm_num) (min_le_left ..)⟩
  cases n with
  | int n => exact between n
  | float x =>
      rw [sizeFor]
      split
      · constructor <;> norm_num
      · split <;> constructor <;> norm_num
      · exact between _

theorem sizeFor_eq {n : Number} {q : ℚ} (h : n.value? = some q) :
    sizeFor n = max 1 (min 10 q) := by
  cases n with
  | int n =>
      cases h
      rfl
  | float x =>
      rw [Number.value?] at h
      rw [sizeFor]
      cases view : Number.Binary.ofFloat x with
      | nan =>
          rw [view] at h
          cases h
      | infinite negative =>
          rw [view] at h
          cases h
      | finite negative mantissa exponent =>
          rw [view] at h
          cases h
          rfl

/-- **A size is brought into range by its value**, and one without a value by its sign. -/
theorem value?_setSize (style : TextStyle) (n : Number) :
    (style.setSize n).size.value? = some (sizeFor n) := by
  have size : (style.setSize n).size = Number.max (.int 1) (Number.min (.int 10) n) := rfl
  have one : Number.value? (.int 1) = some 1 := by simp [Number.value?]
  have ten : Number.value? (.int 10) = some 10 := by simp [Number.value?]
  have between : (Number.int 1).lt (.int 10) = true := by decide
  rw [size, Number.min, Number.max]
  cases value : n.value? with
  | some q =>
      have above := Number.int_lt_iff value 1
      have below := Number.lt_int_iff value 10
      push_cast at above below
      rw [sizeFor_eq value]
      by_cases small : q < 10
      · rw [if_pos (below.mpr small), min_eq_right small.le]
        by_cases large : 1 < q
        · rw [if_pos (above.mpr large), max_eq_right large.le, value]
        · rw [if_neg (above.not.mpr large), max_eq_left (not_lt.mp large), one]
      · rw [if_neg (below.not.mpr small), min_eq_left (not_lt.mp small), if_pos between, ten]
        norm_num
  | none =>
      obtain ⟨x, rfl, noValue⟩ := Number.eq_float_of_value?_eq_none value
      have below : (Number.float x).lt (.int 10)
          = ((Number.Binary.ofFloat x).compareInt 10 == some .lt) := rfl
      have above : (Number.int 1).lt (.float x)
          = (((Number.Binary.ofFloat x).compareInt 1).map Ordering.swap == some .lt) := rfl
      rw [sizeFor]
      cases view : Number.Binary.ofFloat x with
      | nan =>
          rw [view] at below
          rw [below]
          exact ten
      | infinite negative =>
          rw [view] at below above
          cases negative with
          | false =>
              rw [below]
              exact ten
          | true =>
              rw [below]
              show Number.value? (if (Number.int 1).lt (.float x) then _ else _) = _
              rw [above]
              exact one
      | finite negative mantissa exponent =>
          rw [view] at noValue
          cases noValue

/-- Glyphs are eight times as high as the size says. -/
theorem value?_fontSize {style : TextStyle} {q : ℚ} (h : style.size.value? = some q)
    (range : q ∈ Set.Icc 1 10) : style.fontSize.value? = some (8 * q) := by
  rw [fontSize]
  cases size : style.size with
  | int n =>
      rw [size] at h
      cases h
      simp [Number.value?, baseHeight]
  | float x =>
      rw [size] at h
      exact Number.Binary.value?_eight_mul h range.1 (range.2.trans (by norm_num))

end TextStyle

/-! ## Calls and their transcripts -/

/-- A call of a command by its name. -/
structure Call where
  name : String
  values : List Value

/-- The size that a call asks texts to have. -/
def Call.size? (call : Call) : Option Number :=
  if call.name = Command.setTextSize.name then call.values.head?.bind Value.number? else none

/-- Calls in their order, each with the fault that it ended in, if any. -/
abbrev Transcript := List (Call × Option Fault)

namespace Transcript

/-- The size that the last successful call asked for, of those that ask for one. -/
def lastSize? (transcript : Transcript) : Option Number :=
  (transcript.filterMap fun entry => if entry.2 = none then entry.1.size? else none).getLast?

/-- The size of texts after a transcript: that of the last call that set it, and
at first 1. -/
def size (transcript : Transcript) : ℚ := transcript.lastSize?.elim 1 TextStyle.sizeFor

theorem size_mem_Icc (transcript : Transcript) : transcript.size ∈ Set.Icc 1 10 := by
  rw [size]
  cases transcript.lastSize? with
  | none => constructor <;> norm_num [Option.elim]
  | some n => exact TextStyle.sizeFor_mem_Icc n

theorem size_concat (transcript : Transcript) (call : Call) (fault : Option Fault) :
    (transcript ++ [(call, fault)]).size
      = (if fault = none then call.size? else none).elim transcript.size
          TextStyle.sizeFor := by
  rw [size, lastSize?, List.filterMap_append, List.getLast?_append]
  cases asked : if fault = none then call.size? else none with
  | none =>
      simp only [List.filterMap_cons, asked, List.filterMap_nil, List.getLast?_nil,
        Option.none_or, Option.elim_none]
      rfl
  | some n => simp [asked]

end Transcript

namespace Machine

variable {σ : Type}

/-- Makes a call. -/
def invoke (surface : Surface σ) (machine : Machine σ) (call : Call) :
    Machine σ × Option Fault :=
  callCommand surface machine call.name call.values

/-- The machine after some calls, whether they fail or not. -/
def runCalls (surface : Surface σ) (machine : Machine σ) (calls : List Call) : Machine σ :=
  calls.foldl (fun m call => (m.invoke surface call).1) machine

/-- The transcript of some calls. -/
def transcript (surface : Surface σ) (machine : Machine σ) : List Call → Transcript
  | [] => []
  | call :: rest =>
    let (next, fault) := machine.invoke surface call
    (call, fault) :: transcript surface next rest

/-- The call that a statement makes, if it is a call whose arguments can be read. -/
def call? (machine : Machine σ) : Statement → Option Call
  | .declaration _ _ _ => none
  | .call command arguments =>
    match Argument.readAll machine.context.scope.lookup arguments with
    | .error _ => none
    | .ok values => some ⟨command, values.map Argument.toValue⟩

end Machine

/-- The transcript of the calls that statements make. -/
def Sketch.transcript {σ : Type} (surface : Surface σ) (machine : Machine σ) :
    List (Nat × Statement) → Transcript
  | [] => []
  | (line, statement) :: rest =>
    ((machine.call? statement).map fun call => (call, (machine.invoke surface call).2)).toList
      ++ transcript surface (machine.step surface line statement) rest

/-! ## What calls come to -/

namespace Machine

variable {σ : Type} {name : String} {values : List Value}

/-- **A call sets the size exactly if it asks for one.** -/
theorem actionOf_eq_setSize_iff {n : Number} :
    actionOf name values = .ok (.setSize n) ↔ (Call.mk name values).size? = some n := by
  constructor
  · intro h
    obtain ⟨command, arguments, rfl, bound, same⟩ := exists_of_actionOf_eq_ok h
    cases command with
    | setTextSize =>
        cases values with
        | nil => cases bound
        | cons value rest =>
            obtain ⟨size, ⟨⟩⟩ := arguments
            cases same
            obtain ⟨-, -, fits⟩ := Command.fits_of_bind bound
            cases fits with
            | cons received =>
                obtain ⟨n, rfl, same⟩ := received
                cases same
                rfl
    | _ => cases same
  · intro h
    rw [Call.size?] at h
    split at h
    · rename_i same
      cases same
      cases values with
      | nil => cases h
      | cons value rest =>
          cases value with
          | number m =>
              cases h
              rfl
          | _ => cases h
    · cases h

/-! ## One call -/

/-- **An action changes the size of texts only by setting it.** -/
theorem perform_size (surface : Surface σ) (machine : Machine σ) (action : Action) :
    (perform surface machine action).1.context.style.size =
      match action with
      | .setSize n => (machine.context.style.setSize n).size
      | _ => machine.context.style.size := by
  cases action with
  | writeLine text =>
      obtain ⟨failed, done⟩ := perform_context surface machine (.writeLine text)
      by_cases fault : (perform surface machine (.writeLine text)).2 = none
      · obtain ⟨style, moved, same⟩ := done fault
        obtain ⟨y, rfl⟩ := TextStyle.exists_of_advanceLine moved
        rw [same]
      · rw [failed fault]
  | _ => rfl

/-- The size of texts is the one that a transcript tells. -/
def SizeTold (transcript : Transcript) (machine : Machine σ) : Prop :=
  machine.context.style.size.value? = some transcript.size

variable {surface : Surface σ} {machine : Machine σ} {transcript : Transcript}

/-- **After a call the size is told by the transcript with that call.** -/
theorem SizeTold.invoke (h : SizeTold transcript machine) (surface : Surface σ)
    (call : Call) :
    SizeTold (transcript ++ [(call, (machine.invoke surface call).2)])
      (machine.invoke surface call).1 := by
  rw [SizeTold, Transcript.size_concat, Machine.invoke, callCommand]
  cases called : actionOf call.name call.values with
  | error fault =>
      rw [if_neg (Option.some_ne_none fault)]
      exact h
  | ok action =>
      simp only [perform_size]
      cases asked : call.size? with
      | some n =>
          obtain rfl : Action.setSize n = action := by
            have := called.symm.trans (actionOf_eq_setSize_iff.mpr asked)
            exact (Except.ok.inj this).symm
          exact TextStyle.value?_setSize _ n
      | none =>
          rw [ite_self]
          cases action with
          | setSize n =>
              have := actionOf_eq_setSize_iff.mp called
              exact absurd (asked.symm.trans this) (by simp)
          | _ => exact h

/-- A statement that makes a call does what the call does. -/
theorem execute_of_call? {statement : Statement} {call : Call}
    (h : machine.call? statement = some call) :
    execute surface machine statement = machine.invoke surface call := by
  cases statement with
  | declaration kind name expression => cases h
  | call command arguments =>
      rw [call?] at h
      rw [execute]
      cases read : Argument.readAll machine.context.scope.lookup arguments with
      | error fault =>
          rw [read] at h
          cases h
      | ok values =>
          rw [read] at h
          cases h
          rfl

/-- A statement that makes no call leaves style and surface alone. -/
theorem execute_of_call?_eq_none {statement : Statement}
    (h : machine.call? statement = none) :
    (execute surface machine statement).1.context.style = machine.context.style ∧
      (execute surface machine statement).1.surface = machine.surface := by
  cases statement with
  | declaration kind name expression =>
      rw [execute, declare]
      cases evaluate machine.context.scope.lookup expression with
      | error fault => exact ⟨rfl, rfl⟩
      | ok value => exact ⟨rfl, rfl⟩
  | call command arguments =>
      rw [call?] at h
      rw [execute]
      cases read : Argument.readAll machine.context.scope.lookup arguments with
      | error fault => exact ⟨rfl, rfl⟩
      | ok values =>
          rw [read] at h
          cases h

/-- A report changes neither style nor surface. -/
theorem settle_style_surface (line : Nat) (outcome : Machine σ × Option Fault) :
    (settle line outcome).context.style = outcome.1.context.style ∧
      (settle line outcome).surface = outcome.1.surface := by
  obtain ⟨after, _ | fault⟩ := outcome <;> exact ⟨rfl, rfl⟩

theorem SizeTold.step (h : SizeTold transcript machine) (surface : Surface σ) (line : Nat)
    (statement : Statement) :
    SizeTold (transcript ++ ((machine.call? statement).map fun call =>
      (call, (machine.invoke surface call).2)).toList)
      (machine.step surface line statement) := by
  rw [SizeTold, Machine.step, (settle_style_surface line _).1]
  cases called : machine.call? statement with
  | none =>
      rw [(execute_of_call?_eq_none called).1, Option.map_none, Option.toList_none,
        List.append_nil]
      exact h
  | some call =>
      rw [execute_of_call? called]
      exact h.invoke surface call

/-! ## Runs -/

/-- Calls of any number keep the size as their transcript tells it. -/
theorem SizeTold.runCalls (h : SizeTold transcript machine) (surface : Surface σ)
    (calls : List Call) :
    SizeTold (transcript ++ machine.transcript surface calls)
      (machine.runCalls surface calls) := by
  induction calls generalizing transcript machine with
  | nil => rwa [Machine.transcript, List.append_nil]
  | cons call rest ih =>
      have later := ih (h.invoke surface call)
      rwa [List.append_assoc] at later

/-- Statements of any number keep the size as the transcript of their calls tells it. -/
theorem SizeTold.runStatements (h : SizeTold transcript machine) (surface : Surface σ)
    (statements : List (Nat × Statement)) :
    SizeTold (transcript ++ Sketch.transcript surface machine statements)
      (Sketch.runStatements surface machine statements) := by
  induction statements generalizing transcript machine with
  | nil => rwa [Sketch.transcript, List.append_nil]
  | cons head rest ih =>
      obtain ⟨line, statement⟩ := head
      have later := ih (h.step surface line statement)
      rwa [List.append_assoc] at later

theorem sizeTold_create (width height : Number) (source : String) (state : σ) :
    SizeTold [] (Machine.mk (Context.create width height source) state) := by
  show Number.value? (.int 1) = some 1
  simp [Number.value?]

end Machine

/-! ## Texts that are drawn -/

/-- Between two logs, texts are drawn only in glyphs of a height. -/
def DrawsTextsOf (height : ℚ) (log later : List Primitive) : Prop :=
  ∃ drawn, later = log ++ drawn ∧ ∀ text location color size,
    Primitive.drawText text location color size ∈ drawn → size.value? = some height

theorem DrawsTextsOf.refl (height : ℚ) (log : List Primitive) : DrawsTextsOf height log log :=
  ⟨[], (List.append_nil log).symm, by simp⟩

/-- A shape that is drawn as a text is that text. -/
theorem Shape.eq_of_primitive?_eq_drawText {shape : Shape} {width height : Number}
    {text : String} {location : Point Number} {color : Color} {size : Number}
    (h : shape.primitive? width height = .ok (some (.drawText text location color size))) :
    shape = .primitive (.drawText text location color size) := by
  cases shape with
  | screen ink => cases h
  | primitive p =>
      cases h
      rfl
  | circle filled center r ink =>
      have drawn := (of_circle? h).2 _ rfl
      cases filled <;> cases drawn
  | triangle filled p0 p1 p2 ink => cases filled <;> cases h
  | roundRect filled x y w h' r ink =>
      obtain ⟨points, -, drawn⟩ := exists_of_bind_eq_ok h
      cases filled <;> cases drawn

namespace Machine

variable {σ : Type} {surface : Surface σ}

/-- A log grows by the primitive that is drawn. -/
theorem perform_log (surface : Surface σ) (machine : Machine (σ × List Primitive))
    (action : Action) :
    (perform surface.logging machine action).1.surface.2 = machine.surface.2 ++
      (action.primitive? surface.width surface.height machine.context.style).toList := by
  rw [perform_surface]
  show ((action.primitive? surface.width surface.height machine.context.style).elim
    machine.surface fun p => (surface.logging.draw p machine.surface).1).2 = _
  cases action.primitive? surface.width surface.height machine.context.style with
  | none => exact (List.append_nil _).symm
  | some p => rfl

/-- **Commands draw texts only in the glyphs of the style.** -/
theorem size_of_drawText {name : String} {values : List Value} {action : Action}
    (called : actionOf name values = .ok action) {width height : Number} {style : TextStyle}
    {text : String} {location : Point Number} {color : Color} {size : Number}
    (drawn : action.primitive? width height style
      = some (.drawText text location color size)) :
    size = style.fontSize := by
  obtain ⟨command, arguments, rfl, -, rfl⟩ := exists_of_actionOf_eq_ok called
  cases command with
  | drawString =>
      cases drawn
      rfl
  | println =>
      cases drawn
      rfl
  | setTextColor => cases drawn
  | setTextSize => cases drawn
  | setCursor => cases drawn
  | _ =>
      cases Shape.eq_of_primitive?_eq_drawText (Action.primitive?_draw_eq_some_iff.mp drawn)

/-- What a call adds to the log are texts in glyphs of eight times the size, or no texts. -/
theorem SizeTold.drawsTextsOf {machine : Machine (σ × List Primitive)}
    {transcript : Transcript} (h : SizeTold transcript machine) (surface : Surface σ)
    (call : Call) :
    DrawsTextsOf (8 * transcript.size) machine.surface.2
      (machine.invoke surface.logging call).1.surface.2 := by
  rw [Machine.invoke, callCommand]
  cases called : actionOf call.name call.values with
  | error fault => exact .refl ..
  | ok action =>
      refine ⟨_, perform_log surface machine action, ?_⟩
      intro text location color size drawn
      rw [size_of_drawText called (Option.mem_toList.mp drawn)]
      exact TextStyle.value?_fontSize h transcript.size_mem_Icc

theorem SizeTold.step_drawsTextsOf {machine : Machine (σ × List Primitive)}
    {transcript : Transcript} (h : SizeTold transcript machine) (surface : Surface σ)
    (line : Nat) (statement : Statement) :
    DrawsTextsOf (8 * transcript.size) machine.surface.2
      (machine.step surface.logging line statement).surface.2 := by
  rw [Machine.step, (settle_style_surface line _).2]
  cases called : machine.call? statement with
  | none =>
      rw [(execute_of_call?_eq_none called).2]
      exact .refl ..
  | some call =>
      rw [execute_of_call? called]
      exact h.drawsTextsOf surface call

end Machine

/-! ## The size at every point of a run -/

namespace Sketch

variable {σ : Type}

/-- **The size of texts is the last one asked for, brought into range.**  Take any surface,
whatever it draws and refuses.  In a fresh context make calls of any commands with any values,
or run any sketch up to any of its statements; then let `t` be the size that the transcript
tells, that is 1 to begin with and, after a call of `setTextSize` that has succeeded, the
number from 1 to 10 that is nearest to its argument, or 10 if the argument is not a number.
The size of texts is exactly `t`, which lies between 1 and 10, and every text that is drawn
next is drawn in glyphs of height `8 * t`. -/
theorem text_size_told (surface : Surface σ) (width height : Number) (source : String)
    (state : σ) (log : List Primitive) :
    (∀ calls : List Call,
      let start : Machine (σ × List Primitive) :=
        ⟨Context.create width height source, (state, log)⟩
      let reached := start.runCalls surface.logging calls
      let t := (start.transcript surface.logging calls).size
      (reached.context.style.size.value? = some t ∧ 1 ≤ t ∧ t ≤ 10) ∧
        ∀ call, DrawsTextsOf (8 * t) reached.surface.2
          (reached.invoke surface.logging call).1.surface.2) ∧
    ∀ text start, load width height source (state, log) = .ok (text, start) →
      ∀ done rest, statements text.toList = done ++ rest →
        let reached := runStatements surface.logging start done
        let t := (transcript surface.logging start done).size
        (reached.context.style.size.value? = some t ∧ 1 ≤ t ∧ t ≤ 10) ∧
          ∀ line statement, DrawsTextsOf (8 * t) reached.surface.2
            (reached.step surface.logging line statement).surface.2 := by
  constructor
  · intro calls start reached t
    have told : Machine.SizeTold _ reached :=
      (Machine.sizeTold_create width height source (state, log)).runCalls
        surface.logging calls
    exact ⟨⟨told, Transcript.size_mem_Icc _⟩, told.drawsTextsOf surface⟩
  · intro text start loaded done rest split reached t
    obtain rfl := eq_create_of_load loaded
    have told : Machine.SizeTold _ reached :=
      (Machine.sizeTold_create width height text (state, log)).runStatements
        surface.logging done
    exact ⟨⟨told, Transcript.size_mem_Icc _⟩, told.step_drawsTextsOf surface⟩

/-- A size that is not a number counts as the greatest, and a call that fails sets none. -/
theorem text_size_told_nan :
    let raster : Raster := ⟨24, 32⟩
    let source := "tft.setTextSize(0 / 0);\ntft.setTextSize(TFT_RED);\ntft.println(\"hi\");"
    let start : Machine (Screen × List Primitive) :=
      ⟨Context.create (.int 24) (.int 32) source, (Screen.blank raster .black, [])⟩
    let done : List (Nat × Statement) :=
      [(1, .call "setTextSize" "0 / 0"), (2, .call "setTextSize" "TFT_RED")]
    let last : Nat × Statement := (3, .call "println" "\"hi\"")
    load (.int 24) (.int 32) source (Screen.blank raster .black, []) = .ok (source, start) ∧
      statements source.toList = done ++ [last] ∧
      (transcript raster.surface.logging start done).size = 10 ∧
      let reached := runStatements raster.surface.logging start done
      reached.context.style.size.value? = some 10 ∧
        DrawsTextsOf (8 * 10) reached.surface.2
          (reached.step raster.surface.logging last.1 last.2).surface.2 := by
  intro raster source start done last
  have unchanged : String.ofList (Source.written 24 32 source.toList) = source := by
    decide +kernel
  have loaded : load (.int 24) (.int 32) source
      (Screen.blank raster .black, ([] : List Primitive))
      = .ok (source, start) := by
    rw [load_int (by decide) (by decide), unchanged]
  have split : statements source.toList = done ++ [last] := by decide +kernel
  have size : (transcript raster.surface.logging start done).size = 10 := by decide +kernel
  have told := (text_size_told raster.surface (.int 24) (.int 32) source
    (Screen.blank raster .black) []).2 source start loaded done [last] split
  rw [size] at told
  exact ⟨loaded, split, size, told.1.1, told.2 last.1 last.2⟩

end Sketch

end SketchScreen
