import SketchScreen.Proofs.StoredSize

/-!
# Storing Projects

A project is stored as a map that holds its own entries after whatever else is kept with it.
The map is taken apart again without loss, and so is the file that it is written to.

## Main Definitions

- `Value.HasDistinctKeys`: the pairs of a map, each key of which is there once.
- `Project.ownPairs`: the entries of a project itself.

## Design Notes

A file is read as a text whose lines may end with a carriage return, and these are replaced.
What is read is what was written only because no text in JSON has such a character: inside of
texts it is escaped, and lines end without it.
-/

namespace SketchScreen

/-! ## Maps -/

namespace Value

variable {key value : Value} {name : String} {pairs rest : List (Value × Value)}

/-- Pairs whose keys are all different. -/
def HasDistinctKeys (pairs : List (Value × Value)) : Prop :=
  pairs.Pairwise fun first second => sameKey first.1 second.1 = false

theorem sameKey_text_iff : sameKey key (.text name) = true ↔ key = .text name := by
  cases key <;> simp [sameKey, numeric?]

theorem insert_of_absent (absent : ∀ pair ∈ pairs, pair.1 ≠ .text name) :
    insert (.text name) value pairs = pairs ++ [(.text name, value)] := by
  induction pairs with
  | nil => rfl
  | cons pair pairs ih =>
      obtain ⟨first, absent⟩ := List.forall_mem_cons.mp absent
      have differ : ¬ sameKey pair.1 (.text name) = true :=
        fun same => first (sameKey_text_iff.mp same)
      show (if sameKey pair.1 (.text name) = true then _ else _) = _
      rw [if_neg differ]
      exact congrArg (pair :: ·) (ih absent)

/-- **New entries come last**, in the order in which they are added. -/
theorem foldl_insert_of_absent {added : List (Value × Value)}
    (texts : ∀ pair ∈ added, ∃ name, pair.1 = .text name) (nodup : (added.map Prod.fst).Nodup)
    (absent : ∀ pair ∈ pairs, ∀ new ∈ added, pair.1 ≠ new.1) :
    added.foldl (fun pairs pair => insert pair.1 pair.2 pairs) pairs = pairs ++ added := by
  induction added generalizing pairs with
  | nil => exact (List.append_nil pairs).symm
  | cons new added ih =>
      obtain ⟨⟨name, text⟩, texts⟩ := List.forall_mem_cons.mp texts
      obtain ⟨fresh, nodup⟩ := List.nodup_cons.mp nodup
      have inserted : insert new.1 new.2 pairs = pairs ++ [new] := by
        obtain ⟨key, value⟩ := new
        cases text
        exact insert_of_absent fun pair mem => absent pair mem _ List.mem_cons_self
      rw [List.foldl_cons, inserted, ih texts nodup, List.append_assoc]
      · rfl
      · intro pair mem later mem'
        rcases List.mem_append.mp mem with mem | mem
        · exact absent pair mem later (List.mem_cons_of_mem _ mem')
        · rw [List.mem_singleton.mp mem]
          exact fun same => fresh (List.mem_map.mpr ⟨later, mem', same.symm⟩)

theorem field?_cons (pair : Value × Value) :
    field? name (pair :: pairs)
      = if sameKey pair.1 (.text name) = true then some pair.2 else field? name pairs := by
  rw [field?, List.find?_cons]
  cases sameKey pair.1 (.text name) <;> rfl

theorem field?_append_of_absent (absent : ∀ pair ∈ pairs, pair.1 ≠ .text name) :
    field? name (pairs ++ rest) = field? name rest := by
  have none : pairs.find? (fun pair => sameKey pair.1 (.text name)) = none :=
    List.find?_eq_none.mpr fun pair mem same => absent pair mem (sameKey_text_iff.mp same)
  rw [field?, List.find?_append, none]
  rfl

/-- The value that stands with a key is the value of the key. -/
theorem field?_of_mem (distinct : HasDistinctKeys pairs) (mem : (.text name, value) ∈ pairs) :
    field? name pairs = some value := by
  induction pairs with
  | nil => cases mem
  | cons pair pairs ih =>
      obtain ⟨apart, distinct⟩ := List.pairwise_cons.mp distinct
      rw [field?_cons]
      rcases List.mem_cons.mp mem with rfl | mem
      · exact if_pos (sameKey_text_iff.mpr rfl)
      · rw [apart _ mem]
        exact ih distinct mem

/-- Whether two values are the same null, text or whole number. -/
def isSameScalar : Value → Value → Bool
  | .null, .null => true
  | .text s, .text t => s == t
  | .number (.int m), .number (.int n) => m == n
  | _, _ => false

theorem eq_of_isSameScalar {v w : Value} : isSameScalar v w = true → v = w := by
  fun_cases isSameScalar v w with
  | case1 => exact fun _ => rfl
  | case2 s t => exact fun same => congrArg Value.text (eq_of_beq same)
  | case3 m n => exact fun same => congrArg (Value.number ∘ Number.int) (eq_of_beq same)
  | case4 =>
    intro same
    cases same

end Value

/-! ## Projects as maps -/

namespace Project

open SketchScreen.Value (HasDistinctKeys)

variable {project : Project} {now : String} {pairs : List (Value × Value)}

/-- The pairs that store a project itself. -/
def ownPairs (project : Project) (now : String) : List (Value × Value) :=
  [(.text "code", .text project.code), (.text "width", .number (.int project.width)),
    (.text "height", .number (.int project.height)),
    (.text "timestamp", if project.timestamp.isTruthy then project.timestamp else .text now)]

theorem isOwnKey_iff {key : Value} : isOwnKey key = true ↔
    ∃ name ∈ ownKeys, key = .text name := by
  rw [isOwnKey, List.any_eq_true]
  simp only [Value.sameKey_text_iff]

theorem map_fst_ownPairs (project : Project) (now : String) :
    (project.ownPairs now).map Prod.fst = ownKeys.map .text := rfl

theorem isOwnKey_of_mem_ownPairs {pair : Value × Value} (mem : pair ∈ project.ownPairs now) :
    isOwnKey pair.1 = true := by
  have key : pair.1 ∈ ownKeys.map Value.text := by
    rw [← map_fst_ownPairs project now]
    exact List.mem_map_of_mem mem
  obtain ⟨name, own, same⟩ := List.mem_map.mp key
  exact isOwnKey_iff.mpr ⟨name, own, same.symm⟩

section Foreign

variable (foreign : ∀ pair ∈ project.extra, isOwnKey pair.1 = false)

include foreign

theorem key_ne_of_foreign {pair own : Value × Value} (mem : pair ∈ project.extra)
    (key : isOwnKey own.1 = true) : pair.1 ≠ own.1 := by
  intro same
  have clash := foreign pair mem
  rw [same, key] at clash
  cases clash

/-- **How a project is stored**: its own entries follow all others. -/
theorem toPairs_eq : project.toPairs now = project.extra ++ project.ownPairs now := by
  show (project.ownPairs now).foldl (fun pairs pair => Value.insert pair.1 pair.2 pairs)
    project.extra = _
  apply Value.foldl_insert_of_absent
  · intro pair mem
    obtain ⟨name, -, same⟩ := isOwnKey_iff.mp (isOwnKey_of_mem_ownPairs mem)
    exact ⟨name, same⟩
  · rw [map_fst_ownPairs]
    exact List.Nodup.map (fun _ _ same => Value.text.inj same) (by decide)
  · intro pair mem own mem'
    exact key_ne_of_foreign foreign mem (isOwnKey_of_mem_ownPairs mem')

/-- The keys of a stored project are all different. -/
theorem hasDistinctKeys_toPairs (distinct : HasDistinctKeys project.extra) :
    HasDistinctKeys (project.toPairs now) := by
  rw [toPairs_eq foreign]
  refine List.pairwise_append.mpr ⟨distinct, ?_, ?_⟩
  · have texts : ((project.ownPairs now).map Prod.fst).Pairwise
        fun a b => Value.sameKey a b = false := by
      rw [map_fst_ownPairs]
      decide
    exact List.pairwise_map.mp texts
  · intro pair mem own mem'
    obtain ⟨name, -, text⟩ := isOwnKey_iff.mp (isOwnKey_of_mem_ownPairs mem')
    have differ := key_ne_of_foreign foreign mem (isOwnKey_of_mem_ownPairs mem')
    rw [text] at differ ⊢
    exact Bool.eq_false_iff.mpr fun same => differ (Value.sameKey_text_iff.mp same)

theorem field?_toPairs {name : String} (own : name ∈ ownKeys) :
    Value.field? name (project.toPairs now) = Value.field? name (project.ownPairs now) := by
  rw [toPairs_eq foreign]
  apply Value.field?_append_of_absent
  intro pair mem
  exact @key_ne_of_foreign project foreign pair (.text name, .null) mem
    (isOwnKey_iff.mpr ⟨name, own, rfl⟩)

/-- What is kept with a project is taken out of its map again, in the same order. -/
theorem filter_toPairs :
    ((project.toPairs now).filter fun pair => !isOwnKey pair.1) = project.extra := by
  have kept : (project.extra.filter fun pair => !isOwnKey pair.1) = project.extra :=
    List.filter_eq_self.mpr fun pair mem => by
      rw [foreign pair mem]
      rfl
  have dropped : ((project.ownPairs now).filter fun pair => !isOwnKey pair.1) = [] :=
    List.filter_eq_nil_iff.mpr fun pair mem => by
      rw [isOwnKey_of_mem_ownPairs mem]
      exact Bool.false_ne_true
  rw [toPairs_eq foreign, List.filter_append, kept, dropped, List.append_nil]

/-- **A stored project is the project.** -/
theorem ofValue_toPairs (width : inRange project.width = true)
    (height : inRange project.height = true) (stamped : project.timestamp.isTruthy = true) :
    ofValue (.map (project.toPairs now)) = .ok project := by
  have side : ∀ {usual n : Int}, inRange n = true → IsSide (given usual (.int n)) n := by
    intro usual n range
    have nonzero : ¬ (Number.int n).isZero = true := by
      rw [Number.isZero_int_iff]
      have := (inRange_iff n).mp range
      omega
    rw [given, if_neg nonzero]
    exact isSide_iff.mpr ⟨isInteger_int n, range⟩
  have stamp : Value.field? "timestamp" (project.toPairs now) = some project.timestamp := by
    rw [field?_toPairs foreign (by decide)]
    show some (if project.timestamp.isTruthy = true then _ else _) = _
    rw [if_pos stamped]
  rw [ofValue_of_stored (field?_toPairs foreign (by decide))
      (field?_toPairs foreign (by decide)) (field?_toPairs foreign (by decide)),
    checkSize_of_isSide (side width) (side height), stamp,
    filter_toPairs foreign]
  rfl

end Foreign

/-- What a map that is accepted gives. -/
theorem of_ofValue (accepted : ofValue (.map pairs) = .ok project) :
    inRange project.width = true ∧ inRange project.height = true ∧
      project.timestamp = (Value.field? "timestamp" pairs).getD .null ∧
      project.extra = pairs.filter fun pair => !isOwnKey pair.1 := by
  obtain ⟨⟨w, h⟩, checked, accepted⟩ := exists_of_bind_eq_ok accepted
  have range := (isInteger_and_inRange_of_checkSize checked).2
  simp only at accepted
  split at accepted
  · cases accepted
    exact ⟨range.1, range.2, rfl, rfl⟩
  · cases accepted

end Project

/-! ## Files -/

namespace Store

variable {store store' : Store} {content : Content} {path : Path} {parts target : List String}
  {files : List (List String × Content)}

theorem isDirectory_iff : store.isDirectory parts = true ↔
    parts <+: store.place ∨ (∃ directory ∈ store.directories, parts <+: directory) ∨
      ∃ file ∈ store.files.map Prod.fst, parts <+: file ∧ parts ≠ file := by
  simp only [isDirectory, Bool.or_eq_true, List.isPrefixOf_iff_prefix, List.any_eq_true,
    Bool.and_eq_true, bne_iff_ne, List.mem_map, or_assoc]
  simp

theorem mem_map_fst_put {file : List String} :
    file ∈ (put target content files).map Prod.fst ↔
      file = target ∨ file ∈ files.map Prod.fst := by
  induction files with
  | nil => simp [put]
  | cons first files ih =>
      rw [put]
      split
      · rename_i same
        have same : first.1 = target := beq_iff_eq.mp same
        simp [same]
      · rw [List.map_cons, List.mem_cons, ih, List.map_cons, List.mem_cons]
        exact or_left_comm

theorem lookup_put : (put target content files).lookup target = some content := by
  induction files with
  | nil => simp [put]
  | cons first files ih =>
      obtain ⟨file, old⟩ := first
      rw [put]
      split
      · rename_i same
        rw [List.lookup_cons, beq_iff_eq.mpr (beq_iff_eq.mp same).symm]
      · rename_i differ
        have differ : (target == file) = false := by
          rw [Bool.eq_false_iff, ne_eq, beq_iff_eq]
          exact fun same => differ (beq_iff_eq.mpr same.symm)
        rw [List.lookup_cons, differ]
        exact ih

/-- What can be followed can be followed where there are more directories. -/
theorem follow_of_follow
    (more : ∀ parts, store.isDirectory parts = true → store'.isDirectory parts = true)
    {place : List String} (followed : store.follow place parts = .ok target) :
    store'.follow place parts = .ok target := by
  induction parts generalizing place with
  | nil => exact followed
  | cons part rest ih =>
      rw [follow] at followed ⊢
      split at followed
      · rename_i directory
        rw [if_pos (more place directory)]
        split at followed
        · cases followed
        · rename_i short
          rw [if_neg short]
          exact ih followed
      · split at followed <;> cases followed

/-- What is written at some parts is there afterwards, and no directory is lost. -/
theorem of_writeAt (written : store.writeAt content parts = .ok store') :
    store'.readAt parts = .ok content ∧ store'.place = store.place ∧
      ∀ others, store.isDirectory others = true → store'.isDirectory others = true := by
  rw [writeAt] at written
  split at written
  · cases written
  · rename_i noDirectory
    split at written
    · cases written
      refine ⟨?_, rfl, ?_⟩
      · have still :
            ¬ Store.isDirectory { store with files := put parts content store.files } parts
              = true := by
          rw [isDirectory_iff] at noDirectory ⊢
          rintro (inPlace | inDirectory | ⟨file, mem, inFile⟩)
          · exact noDirectory (.inl inPlace)
          · exact noDirectory (.inr (.inl inDirectory))
          · rcases mem_map_fst_put.mp mem with rfl | mem
            · exact inFile.2 rfl
            · exact noDirectory (.inr (.inr ⟨file, mem, inFile⟩))
        rw [readAt, if_neg still, file?, lookup_put]
      · intro others
        rw [isDirectory_iff, isDirectory_iff]
        refine Or.imp_right (Or.imp_right ?_)
        rintro ⟨file, mem, inFile⟩
        exact ⟨file, mem_map_fst_put.mpr (.inr mem), inFile⟩
    · split at written <;> cases written

/-- **What is written is read.** -/
theorem read_of_write (written : store.write path content = .ok store') :
    store'.read path = .ok content := by
  obtain ⟨parts, resolved, written⟩ := exists_of_bind_eq_ok (eq_ok_of_mapError_eq_ok written)
  obtain ⟨there, place, more⟩ := of_writeAt written
  have resolved : store'.resolve path = .ok parts := by
    obtain ⟨named, checked, followed⟩ := exists_of_bind_eq_ok resolved
    rw [resolve, checked, place]
    exact follow_of_follow more followed
  rw [read, resolved]
  show (store'.readAt parts).mapError _ = _
  rw [there]
  rfl

end Store

/-! ## Texts in JSON -/

theorem Text.unifyLines_eq_self {cs : List Char} (absent : '\r' ∉ cs) :
    unifyLines cs = cs := by
  induction cs with
  | nil => rfl
  | cons c cs ih =>
      rw [List.mem_cons, not_or] at absent
      rw [unifyLines, ih absent.2]
      · intro rest same
        exact absurd same.symm absent.1
      · intro same
        exact absurd same.symm absent.1

namespace Json

/-- Whether a map of scalars was read.  Values are not compared by evaluation in general. -/
def isReadAs (pairs : List (Value × Value)) : Except JsonFault Value → Bool
  | .ok (.map read) =>
    read.isEqv pairs fun p q => p.1.isSameScalar q.1 && p.2.isSameScalar q.2
  | _ => false

theorem eq_of_isReadAs {pairs : List (Value × Value)} {result : Except JsonFault Value} :
    isReadAs pairs result = true → result = .ok (.map pairs) := by
  fun_cases isReadAs pairs result with
  | case1 read =>
    intro same
    obtain ⟨length, each⟩ : ∃ length : read.length = pairs.length, ∀ i (h : i < read.length),
        ((read.get ⟨i, h⟩).1.isSameScalar (pairs.get ⟨i, length ▸ h⟩).1
          && (read.get ⟨i, h⟩).2.isSameScalar (pairs.get ⟨i, length ▸ h⟩).2) = true := by
      simpa [List.isEqv_eq_decide] using same
    have equal : read = pairs := by
      refine List.ext_get length fun i h _ => ?_
      have both := each i h
      rw [Bool.and_eq_true] at both
      exact Prod.ext (Value.eq_of_isSameScalar both.1) (Value.eq_of_isSameScalar both.2)
    rw [equal]
  | case2 =>
    intro same
    cases same

end Json

/-! ## Project files -/

namespace Project

open SketchScreen.Value (HasDistinctKeys)

variable {project : Project} {now s : String} {pairs : List (Value × Value)}
  {store store' : Store} {path : Path}

/-- A project with nothing left to fill in: its sides are in range, the time at which it was
stored is known, and what is kept with it has keys of its own. -/
structure IsComplete (project : Project) : Prop where
  width : 1 ≤ project.width ∧ project.width ≤ 1920
  height : 1 ≤ project.height ∧ project.height ≤ 1920
  stamped : project.timestamp.isTruthy = true
  foreign : ∀ pair ∈ project.extra, isOwnKey pair.1 = false

theorem IsComplete.ofValue_toPairs (complete : project.IsComplete) (now : String) :
    ofValue (.map (project.toPairs now)) = .ok project :=
  Project.ofValue_toPairs complete.foreign ((inRange_iff _).mpr complete.width)
    ((inRange_iff _).mpr complete.height) complete.stamped

/-- A project that was stored with a time is complete. -/
theorem isComplete_of_ofValue (accepted : ofValue (.map pairs) = .ok project) {stamp : Value}
    (stored : Value.field? "timestamp" pairs = some stamp) (stamped : stamp.isTruthy = true) :
    project.IsComplete := by
  obtain ⟨width, height, timestamp, extra⟩ := of_ofValue accepted
  refine ⟨(inRange_iff _).mp width, (inRange_iff _).mp height, ?_, ?_⟩
  · rw [timestamp, stored]
    exact stamped
  · intro pair mem
    rw [extra, List.mem_filter] at mem
    simpa using mem.2

/-- What becomes of a pair of a map when its project is stored again. -/
theorem mem_toPairs_of_ofValue (distinct : HasDistinctKeys pairs)
    (accepted : ofValue (.map pairs) = .ok project) {stamp : Value}
    (stored : Value.field? "timestamp" pairs = some stamp) (stamped : stamp.isTruthy = true)
    {pair : Value × Value} (mem : pair ∈ pairs) :
    (∃ value, (pair.1, value) ∈ project.toPairs now) ∧
      (pair.1 ≠ .text "code" → pair.1 ≠ .text "width" → pair.1 ≠ .text "height" →
        pair ∈ project.toPairs now) := by
  obtain ⟨-, -, timestamp, extra⟩ := of_ofValue accepted
  rw [toPairs_eq (isComplete_of_ofValue accepted stored stamped).foreign]
  by_cases own : isOwnKey pair.1 = true
  · obtain ⟨name, known, key⟩ := isOwnKey_iff.mp own
    have there : pair.1 ∈ (project.ownPairs now).map Prod.fst := by
      rw [map_fst_ownPairs, key]
      exact List.mem_map_of_mem known
    obtain ⟨found, mem', same⟩ := List.mem_map.mp there
    refine ⟨⟨found.2, ?_⟩, fun code width height => ?_⟩
    · rw [← same]
      exact List.mem_append_right _ mem'
    · -- of the project's own keys only that of the time is left, and it has one value
      have last : name = "timestamp" := by
        simp only [ownKeys, List.mem_cons, List.not_mem_nil, or_false] at known
        rw [key] at code width height
        rcases known with rfl | rfl | rfl | rfl
        · exact absurd rfl code
        · exact absurd rfl width
        · exact absurd rfl height
        · rfl
      obtain ⟨_, value⟩ := pair
      cases key
      rw [last] at mem ⊢
      have unchanged : value = project.timestamp := by
        rw [timestamp, Value.field?_of_mem distinct mem]
        rfl
      have stamped : project.timestamp.isTruthy = true :=
        (isComplete_of_ofValue accepted stored stamped).stamped
      refine List.mem_append_right _ ?_
      rw [unchanged, ownPairs, if_pos stamped]
      exact List.mem_of_getLast? rfl
  · have kept : pair ∈ project.extra := by
      rw [extra, List.mem_filter]
      exact ⟨mem, by simpa using own⟩
    exact ⟨⟨pair.2, List.mem_append_left _ kept⟩, fun _ _ _ => List.mem_append_left _ kept⟩

/-- What saving a project in JSON goes through. -/
theorem save_json (known : ProjectFormat.ofPath? path = some .json)
    (written : Json.write (.map (project.toPairs now)) = .ok s) :
    save store project now path = (store.write path (.text s)).mapError .file := by
  have formatOf : formatOf path = .ok .json := by
    delta Project.formatOf
    rw [known]
  have written : writeAs .json (.map (project.toPairs now)) = .ok s := by
    rw [writeAs, written]
  rw [save, formatOf]
  show (writeAs .json (.map (project.toPairs now)) >>= _) = _
  rw [written]
  rfl

/-- What is loaded from a file in JSON that was just written. -/
theorem load_json (known : ProjectFormat.ofPath? path = some .json) {value : Value}
    (written : Json.write value = .ok s) (undone : Json.read s.toList = .ok value)
    (stored : store.write path (.text s) = .ok store') :
    load store' path = (ofValue value).mapError .project := by
  have lines : Text.unifyLines s.toList = s.toList :=
    Text.unifyLines_eq_self (Json.isAscii_writeAt written).notMem_return
  have text : store'.readText path = .ok s.toList := by
    rw [Store.readText, Store.read_of_write stored]
    exact congrArg Except.ok lines
  have read : readAs .json s.toList = .ok value := by
    rw [readAs, readJson, undone]
  rw [CommandLine.load_eq known, text]
  show (readAs .json s.toList >>= _) = _
  rw [read]
  rfl

/-- **Storing a project loses nothing.**  A complete project is taken out of its map as it was
put in, with what is kept with it in the same order.  A map that is accepted and has a time
keeps all its keys when its project is stored again, and all values but those of the project's
own three entries; and this map stores the same project.  A complete project that is saved in
JSON is loaded from the file that it was saved to, if its text reads back; saving it fails
only where the file cannot be written. -/
theorem stored_without_loss :
    (∀ (project : Project) (now : String), project.IsComplete →
      ofValue (.map (project.toPairs now)) = .ok project) ∧
    (∀ (pairs : List (Value × Value)) (project : Project) (now : String) (stamp : Value),
      HasDistinctKeys pairs → ofValue (.map pairs) = .ok project →
      Value.field? "timestamp" pairs = some stamp → stamp.isTruthy = true →
        HasDistinctKeys (project.toPairs now) ∧
        (∀ pair ∈ pairs, (∃ value, (pair.1, value) ∈ project.toPairs now) ∧
          (pair.1 ≠ .text "code" → pair.1 ≠ .text "width" → pair.1 ≠ .text "height" →
            pair ∈ project.toPairs now)) ∧
        ofValue (.map (project.toPairs now)) = .ok project) ∧
    (∀ (project : Project) (now s : String) (store : Store) (path : Path),
      project.IsComplete →
      ProjectFormat.ofPath? path = some .json →
      Json.write (.map (project.toPairs now)) = .ok s →
      Json.read s.toList = .ok (.map (project.toPairs now)) →
        save store project now path = (store.write path (.text s)).mapError .file ∧
        ∀ store', save store project now path = .ok store' →
          load store' path = .ok project) := by
  refine ⟨fun project now complete => complete.ofValue_toPairs now, ?_, ?_⟩
  · intro pairs project now stamp distinct accepted stored stamped
    have complete := isComplete_of_ofValue accepted stored stamped
    obtain ⟨-, -, timestamp, extra⟩ := of_ofValue accepted
    refine ⟨hasDistinctKeys_toPairs complete.foreign ?_, ?_, complete.ofValue_toPairs now⟩
    · rw [extra]
      exact List.Pairwise.filter _ distinct
    · exact fun pair mem => mem_toPairs_of_ofValue distinct accepted stored stamped mem
  · intro project now s store path complete known written undone
    have saved := @save_json project now s store path known written
    refine ⟨saved, fun store' stored => ?_⟩
    rw [saved] at stored
    rw [load_json known written undone (eq_ok_of_mapError_eq_ok stored),
      complete.ofValue_toPairs now]
    rfl

/-- A project with a note, and a map that leaves its size open. -/
theorem stored_without_loss_note :
    let project : Project := ⟨"x", 240, 320, .text "noon", [(.text "note", .null)]⟩
    let pairs : List (Value × Value) :=
      [(.text "timestamp", .text "noon"), (.text "note", .null), (.text "code", .text "x")]
    let store : Store := ⟨["home"], [], []⟩
    ofValue (.map (project.toPairs "night")) = .ok project ∧
      (ofValue (.map pairs) = .ok project ∧
        ∀ pair ∈ pairs, ∃ value, (pair.1, value) ∈ project.toPairs "night") ∧
      ∃ store', save store project "night" ⟨"", ["a.json"]⟩ = .ok store' ∧
        load store' ⟨"", ["a.json"]⟩ = .ok project := by
  intro project pairs store
  let s := "\x7b\n  \"note\": null,\n  \"code\": \"x\",\n"
    ++ "  \"width\": 240,\n  \"height\": 320,\n"
    ++ "  \"timestamp\": \"noon\"\n\x7d"
  have complete : project.IsComplete := ⟨by decide, by decide, rfl, by decide⟩
  have distinct : HasDistinctKeys pairs := by
    simp [pairs, HasDistinctKeys, Value.sameKey, Value.numeric?]
  have accepted : ofValue (.map pairs) = .ok project := rfl
  obtain ⟨-, kept, -⟩ :=
    stored_without_loss.2.1 pairs project "night" (.text "noon") distinct accepted
    rfl (by decide)
  have known : ProjectFormat.ofPath? ⟨"", ["a.json"]⟩ = some .json := by decide +kernel
  have written : Json.write (.map (project.toPairs "night")) = .ok s := by decide +kernel
  have undone : Json.read s.toList = .ok (.map (project.toPairs "night")) :=
    Json.eq_of_isReadAs (by decide +kernel)
  have stored : store.write ⟨"", ["a.json"]⟩ (.text s)
      = .ok ⟨["home"], [(["home", "a.json"], .text s)], []⟩ := rfl
  obtain ⟨saved, loaded⟩ := stored_without_loss.2.2 project "night" s store ⟨"", ["a.json"]⟩
    complete known written undone
  rw [stored] at saved
  exact ⟨stored_without_loss.1 project "night" complete,
    ⟨accepted, fun pair mem => (kept pair mem).1⟩, _, saved, loaded _ saved⟩

end Project

end SketchScreen
