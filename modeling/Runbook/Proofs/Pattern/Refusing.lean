import Mathlib.Algebra.Group.Nat.Defs
import Runbook.Pattern.Parser
import Runbook.Proofs.Results

/-! # Why patterns are refused

Nearly all that a text is refused for as a pattern is an error in the pattern itself. The
exceptions are numbers of repetitions, which may be too large or too long, the code of a
character, which may be out of all proportion, and flags that contradict each other. A number
that is refused stands in the text.
-/

namespace Runbook.Pattern

open Results (ok_bind error_bind pure_eq_ok)

/-- What a text can be refused for as a pattern though there is no error in it. -/
inductive Excess (text : List Char) : Fault → Prop
  | repetitions {digits : List Char} (inside : digits <:+: text)
      (decimal : ∀ c ∈ digits, c.isDigit = true)
      (large : 0xFFFFFFFF ≤ Number.digitsValue digits) : Excess text .tooManyRepetitions
  | digits {digits : List Char} (inside : digits <:+: text)
      (decimal : ∀ c ∈ digits, c.isDigit = true) (long : 4300 < digits.length) :
      Excess text (.tooManyDigits digits.length)
  | code {digits : List Char} (inside : '\\' :: 'U' :: digits <:+: text)
      (eight : digits.length = 8) (hexadecimal : ∀ c ∈ digits, isHexadecimal c = true)
      (large : 0x80000000 ≤ hexadecimalValue digits) : Excess text .codeTooLarge
  | flags : Excess text .contraryFlags

/-- What a text can be refused for as a pattern. -/
inductive Refusal (text : List Char) (fault : Fault) : Prop
  | own (pattern : fault.kind = .pattern)
  | excess (found : Excess text fault)

/-- All that has not been taken. -/
def Source.left (source : Source) : List Char :=
  source.next.elim [] Piece.toList ++ source.rest

/-! ## Reading on -/

/-- A reader has come to what is told and goes on in a text, or it has failed as the text can be
refused. -/
def Comes {α : Type} (text : List Char) (told : α → Prop) : Except Error (α × Reading) → Prop
  | .ok (value, after) => told value ∧ after.source.left <:+ text
  | .error error => Refusal text error.fault

/-- What a reader comes to behind a part of a text that has just been taken. -/
def TellsBehind {α : Type} (front text : List Char) (part : Reader α) (told : α → Prop) : Prop :=
  ∀ reading : Reading, front ++ reading.source.left <:+ text → Comes text told (part.run reading)

/-- What a reader comes to with a piece of a text ahead. -/
def TellsAhead {α : Type} (piece : Piece) (text : List Char) (part : Reader α)
    (told : α → Prop) : Prop :=
  ∀ reading : Reading, reading.source.next = some piece → reading.source.left <:+ text →
    Comes text told (part.run reading)

/-- What a reader comes to anywhere in a text. -/
abbrev Tells {α : Type} (text : List Char) (part : Reader α) (told : α → Prop) : Prop :=
  TellsBehind [] text part told

/-- A reader of whose result nothing is told. -/
abbrev GoesOn {α : Type} (text : List Char) (part : Reader α) : Prop :=
  Tells text part fun _ => True

section Rules

variable {α β : Type} {front text : List Char} {piece : Piece} {told : α → Prop}
  {toldThen : β → Prop}

namespace TellsBehind

theorem bind {part : Reader α} {next : α → Reader β} (first : TellsBehind front text part told)
    (rest : ∀ value, told value → Tells text (next value) toldThen) :
    TellsBehind front text (part >>= next) toldThen := by
  intro reading within
  rw [StateT.run_bind]
  have began := first reading within
  cases ran : part.run reading with
  | error error =>
      rw [ran] at began
      exact began
  | ok ended =>
      rw [ran] at began
      exact rest ended.1 began.1 ended.2 began.2

theorem mono {part : Reader α} {wider : α → Prop} (first : TellsBehind front text part told)
    (weaker : ∀ value, told value → wider value) : TellsBehind front text part wider := by
  intro reading within
  have began := first reading within
  cases ran : part.run reading with
  | error error =>
      rw [ran] at began
      exact began
  | ok ended =>
      rw [ran] at began
      exact ⟨weaker _ began.1, began.2⟩

/-- What holds anywhere holds behind any part of the text. -/
theorem of_tells {part : Reader α} (anywhere : Tells text part told) :
    TellsBehind front text part told :=
  fun reading within => anywhere reading ((List.suffix_append _ _).trans within)

theorem pure {value : α} (fact : told value) : TellsBehind front text (Pure.pure value) told :=
  of_tells fun _ within => ⟨fact, within⟩

theorem get : TellsBehind front text MonadState.get fun reading => reading.source.left <:+ text :=
  of_tells fun _ within => ⟨within, within⟩

theorem throw {error : Error} (refusal : Refusal text error.fault) :
    TellsBehind front text (MonadExcept.throw error : Reader α) told :=
  fun _ _ => refusal

theorem ofModify {change : Reading → Reading}
    (within : ∀ reading, reading.source.left <:+ text → (change reading).source.left <:+ text) :
    TellsBehind front text (modify change) fun _ => True :=
  of_tells fun reading inside => ⟨trivial, within reading inside⟩

theorem set {reading : Reading} (within : reading.source.left <:+ text) :
    TellsBehind front text (MonadStateOf.set reading) fun _ => True :=
  fun _ _ => ⟨trivial, within⟩

theorem fail {fault : Fault} {back : Nat} (refusal : Refusal text fault) :
    TellsBehind front text (Reader.fail fault back : Reader α) told :=
  get.bind fun _ _ => throw refusal

theorem failAt {fault : Fault} {position : Nat} (refusal : Refusal text fault) :
    TellsBehind front text (Reader.failAt fault position : Reader α) told :=
  get.bind fun _ _ => throw refusal

theorem failAnywhere {fault : Fault} (refusal : Refusal text fault) :
    TellsBehind front text (Reader.failAnywhere fault : Reader α) told :=
  get.bind fun _ _ => throw refusal

/-- Both ways to come to a value go on in the same way. -/
theorem ite_bind {condition : Prop} [Decidable condition] {first second : Reader α}
    {next : α → Reader β} (one : TellsBehind front text first told)
    (other : TellsBehind front text second told)
    (rest : ∀ value, told value → Tells text (next value) toldThen) :
    TellsBehind front text (if condition then first >>= next else second >>= next) toldThen := by
  split
  · exact one.bind rest
  · exact other.bind rest

end TellsBehind

theorem TellsAhead.of_tells {part : Reader α} (anywhere : Tells text part told) :
    TellsAhead piece text part told :=
  fun reading _ within => anywhere reading within

/-- Looking at what comes next does not take it. -/
theorem Tells.next_bind {go : Option Piece → Reader β} (ended : Tells text (go none) toldThen)
    (ahead : ∀ piece, TellsAhead piece text (go (some piece)) toldThen) :
    Tells text (Reader.next >>= go) toldThen := by
  intro reading within
  change Comes text toldThen ((go reading.source.next).run reading)
  cases next : reading.source.next with
  | none => exact ended reading within
  | some piece => exact ahead piece reading next within

end Rules

/-! ## Taking pieces -/

namespace Reader

variable {front text : List Char}

theorem load_cases (text rest : List Char) (position : Nat) :
    (∃ source, Source.load text position rest = .ok source ∧ source.left = rest) ∨
      ∃ error, Source.load text position rest = .error error ∧ error.fault = .endsInEscape := by
  unfold Source.load
  split
  · exact .inl ⟨_, rfl, rfl⟩
  · exact .inr ⟨_, rfl, rfl⟩
  · exact .inl ⟨_, rfl, rfl⟩
  · exact .inl ⟨_, rfl, rfl⟩

/-- A piece is taken from the front of what is left. -/
theorem run_take (reading : Reading) :
    (∃ after, take.run reading = .ok (reading.source.next, after) ∧
        reading.source.left = reading.source.next.elim [] Piece.toList ++ after.source.left) ∨
      ∃ error, take.run reading = .error error ∧ error.fault = .endsInEscape := by
  cases ahead : reading.source.next with
  | none =>
      refine .inl ⟨reading, ?_, ?_⟩
      · simp [take, ahead, pure_eq_ok, ok_bind]
      · simp [Source.left, ahead]
  | some piece =>
      rcases load_cases reading.source.text reading.source.rest
        (reading.source.position + piece.length) with ⟨source, loaded, left⟩ | ⟨error, loaded, same⟩
      · refine .inl ⟨{ reading with source }, ?_, ?_⟩
        · simp [take, ahead, loaded]
        · simp [Source.left, ahead, ← left]
      · refine .inr ⟨error, ?_, same⟩
        simp [take, ahead, loaded]

/-- What is read behind the next piece stands behind it in the text. -/
theorem comes_take_bind {β : Type} {go : Option Piece → Reader β} {told : β → Prop}
    {reading : Reading} (within : reading.source.left <:+ text)
    (goesOn : TellsBehind (reading.source.next.elim [] Piece.toList) text
      (go reading.source.next) told) :
    Comes text told ((take >>= go).run reading) := by
  rw [StateT.run_bind]
  rcases run_take reading with ⟨after, ran, left⟩ | ⟨error, ran, same⟩
  · rw [ran]
    exact goesOn after (left ▸ within)
  · rw [ran]
    exact .own (by rw [same]; rfl)

theorem tells_take_bind {β : Type} {go : Option Piece → Reader β} {told : β → Prop}
    (ended : Tells text (go none) told)
    (goesOn : ∀ piece, TellsBehind piece.toList text (go (some piece)) told) :
    Tells text (take >>= go) told := by
  intro reading within
  refine comes_take_bind within ?_
  cases reading.source.next with
  | none => exact ended
  | some piece => exact goesOn piece

theorem tellsAhead_take_bind {β : Type} {piece : Piece} {go : Option Piece → Reader β}
    {told : β → Prop} (goesOn : TellsBehind piece.toList text (go (some piece)) told) :
    TellsAhead piece text (take >>= go) told := by
  intro reading next within
  refine comes_take_bind within ?_
  rw [next]
  exact goesOn

theorem goesOn_take : GoesOn text take := by
  have ending {front : List Char} (piece : Option Piece) :
      TellsBehind front text (pure piece) fun _ => True := .pure trivial
  simpa only [bind_pure] using tells_take_bind (ending none) fun _ => ending _

theorem goesOn_next : GoesOn text next := .bind .get fun _ _ => .pure trivial

theorem goesOn_position : GoesOn text position := .bind .get fun _ _ => .pure trivial

theorem goesOn_sees (c : Char) : GoesOn text (sees c) := goesOn_next.bind fun _ _ => .pure trivial

theorem goesOn_take? (c : Char) : GoesOn text (take? c) := by
  refine (goesOn_sees c).bind fun seen _ => ?_
  split
  · exact goesOn_take.bind fun _ _ => .pure trivial
  · exact .pure trivial

theorem run_takeWhile (keep : Char → Bool) (count : Nat) (reading : Reading) :
    (∃ taken after, (takeWhile keep count).run reading = .ok (taken, after) ∧
        reading.source.left = taken ++ after.source.left ∧ ∀ c ∈ taken, keep c = true) ∨
      ∃ error, (takeWhile keep count).run reading = .error error ∧
        error.fault = .endsInEscape := by
  induction count generalizing reading with
  | zero => exact .inl ⟨[], reading, rfl, rfl, by simp⟩
  | succ count induction =>
      have ended (nothing : (takeWhile keep (count + 1)).run reading = .ok ([], reading)) :
          ∃ taken after, (takeWhile keep (count + 1)).run reading = .ok (taken, after) ∧
            reading.source.left = taken ++ after.source.left ∧ ∀ c ∈ taken, keep c = true :=
        ⟨[], reading, nothing, rfl, by simp⟩
      rcases ahead : reading.source.next with _ | c | c
      · exact .inl (ended (by simp [takeWhile, next, ahead, pure_eq_ok, ok_bind]))
      · by_cases kept : keep c = true
        · rcases run_take reading with ⟨middle, ran, left⟩ | ⟨error, ran, same⟩
          · rw [ahead] at ran left
            rcases induction middle with ⟨taken, after, went, further, all⟩ | ⟨error, went, same⟩
            · refine .inl ⟨c :: taken, after, ?_, ?_, ?_⟩
              · simp [takeWhile, next, ahead, kept, ran, went, ok_bind]
              · rw [left, further]
                rfl
              · exact List.forall_mem_cons.mpr ⟨kept, all⟩
            · refine .inr ⟨error, ?_, same⟩
              simp [takeWhile, next, ahead, kept, ran, went, ok_bind]
          · refine .inr ⟨error, ?_, same⟩
            simp [takeWhile, next, ahead, kept, ran, error_bind]
        · exact .inl (ended (by simp [takeWhile, next, ahead, kept, pure_eq_ok, ok_bind]))
      · exact .inl (ended (by simp [takeWhile, next, ahead, pure_eq_ok, ok_bind]))

/-- What is taken character by character stands in the text, behind what was taken before. -/
theorem tells_takeWhile (keep : Char → Bool) (count : Nat) :
    TellsBehind front text (takeWhile keep count) fun taken =>
      front ++ taken <:+: text ∧ ∀ c ∈ taken, keep c = true := by
  intro reading within
  rcases run_takeWhile keep count reading with ⟨taken, after, ran, left, kept⟩ | ⟨error, ran, same⟩
  · rw [left, ← List.append_assoc] at within
    rw [ran]
    exact ⟨⟨(List.prefix_append _ _).isInfix.trans within.isInfix, kept⟩,
      (List.suffix_append _ _).trans within⟩
  · rw [ran]
    exact .own (by rw [same]; rfl)

theorem goesOn_takeName (terminator : Char) (what : String) :
    GoesOn text (takeName terminator what) := by
  have go (fuel : Nat) (name : List Char) :
      GoesOn text (takeName.go terminator what fuel name) := by
    induction fuel generalizing name with
    | zero => exact .pure trivial
    | succ fuel induction =>
        refine goesOn_take.bind fun piece _ => ?_
        split
        · split
          · exact .fail (.own rfl)
          · exact .fail (.own rfl)
        · split
          · split
            · exact .fail (.own rfl)
            · exact .pure trivial
          · exact induction _
  exact .bind .get fun _ _ => go _ _

end Reader

open Reader

variable {front text : List Char} {flags : Flags}

/-! ## Escapes and sets -/

theorem goesOn_takeWhile (keep : Char → Bool) (count : Nat) :
    TellsBehind front text (takeWhile keep count) fun _ => True :=
  (tells_takeWhile keep count).mono fun _ _ => trivial

theorem hexadecimalDigit_lt {c : Char} (hexadecimal : isHexadecimal c = true) :
    hexadecimalDigit c < 16 := by
  have table : ∀ code < 128, isHexadecimal (Char.ofNat code) = true →
      hexadecimalDigit (Char.ofNat code) < 16 := by decide
  have ascii : c.toNat < 128 := by
    simp only [isHexadecimal, Char.isDigit, Bool.or_eq_true, Bool.and_eq_true, decide_eq_true_eq,
      Char.le_def, ge_iff_le, UInt32.le_iff_toNat_le] at hexadecimal
    change c.val.toNat < 128
    rcases hexadecimal with (⟨-, most⟩ | ⟨-, most⟩) | ⟨-, most⟩ <;>
      exact Nat.lt_of_le_of_lt most (by decide)
  rw [← Char.ofNat_toNat c] at hexadecimal ⊢
  exact table c.toNat ascii hexadecimal

theorem hexadecimalValue_lt {digits : List Char}
    (hexadecimal : ∀ c ∈ digits, isHexadecimal c = true) :
    hexadecimalValue digits < 16 ^ digits.length := by
  have bounded (value : Nat) : digits.foldl (fun value c => value * 16 + hexadecimalDigit c) value <
      (value + 1) * 16 ^ digits.length := by
    induction digits generalizing value with
    | nil => simp
    | cons c rest induction =>
        have digit := hexadecimalDigit_lt (hexadecimal c (List.mem_cons_self ..))
        have all := fun other member => hexadecimal other (List.mem_cons_of_mem c member)
        calc (c :: rest).foldl (fun value c => value * 16 + hexadecimalDigit c) value
            < (value * 16 + hexadecimalDigit c + 1) * 16 ^ rest.length := induction all _
          _ ≤ (value + 1) * 16 * 16 ^ rest.length := Nat.mul_le_mul_right _ (by omega)
          _ = (value + 1) * 16 ^ (c :: rest).length := by
            rw [List.length_cons, pow_succ', Nat.mul_assoc]
  simpa [hexadecimalValue] using bounded 0

/-- A code is refused only if it is out of all proportion. -/
theorem goesOn_readHexadecimal (letter : Char) (count : Nat)
    (excess : ∀ digits, '\\' :: letter :: digits <:+: text → digits.length = count →
      (∀ c ∈ digits, isHexadecimal c = true) → 0x80000000 ≤ hexadecimalValue digits →
        Excess text .codeTooLarge) :
    TellsBehind ['\\', letter] text (readHexadecimal letter count) fun _ => True := by
  refine (tells_takeWhile _ _).bind fun digits taken => ?_
  dsimp only
  split
  · exact .fail (.own rfl)
  · rename_i length
    have length : digits.length = count := by simpa using length
    split
    · exact .failAnywhere (.excess (excess digits taken.1 length taken.2 ‹_›))
    · split
      · exact .fail (.own rfl)
      · exact .pure trivial

/-- A few digits do not make a code that is out of all proportion. -/
theorem goesOn_readHexadecimal_of_few (letter : Char) {count : Nat}
    (few : 16 ^ count ≤ 0x80000000) :
    TellsBehind ['\\', letter] text (readHexadecimal letter count) fun _ => True := by
  refine goesOn_readHexadecimal letter count fun digits _ length hexadecimal large => ?_
  have bounded := hexadecimalValue_lt hexadecimal
  rw [length] at bounded
  omega

theorem goesOn_readCharacterName : GoesOn text readCharacterName := by
  refine (goesOn_take? _).bind fun opened _ => ?_
  split
  · refine (goesOn_takeName _ _).bind fun name _ => ?_
    refine .bind .get fun reading _ => ?_
    split
    · exact .pure trivial
    · exact .fail (.own rfl)
  · exact .fail (.own rfl)

theorem goesOn_octalCode (digits : List Char) : GoesOn text (octalCode digits) := by
  unfold octalCode
  dsimp only
  split
  · exact .fail (.own rfl)
  · exact .pure trivial

theorem goesOn_readCode (c : Char) :
    TellsBehind ['\\', c] text (readCode c) fun _ => True := by
  unfold readCode
  split
  · exact goesOn_readHexadecimal_of_few c (by decide)
  · split
    · exact goesOn_readHexadecimal_of_few c (by decide)
    · split
      · rename_i letter
        obtain rfl := beq_iff_eq.mp letter
        exact goesOn_readHexadecimal 'U' 8 fun _ inside eight hexadecimal large =>
          .code inside eight hexadecimal large
      · split
        · exact .of_tells goesOn_readCharacterName
        · split
          · exact .fail (.own rfl)
          · exact .pure trivial

theorem goesOn_readSetEscape (c : Char) :
    TellsBehind ['\\', c] text (readSetEscape c) fun _ => True := by
  unfold readSetEscape
  split
  · exact .pure trivial
  · exact .pure trivial
  · have coded : TellsBehind ['\\', c] text
        (if isOctal c then do octalCode (c :: (← takeWhile isOctal 2)) else readCode c)
        fun _ => True := by
      split
      · exact (goesOn_takeWhile _ _).bind fun _ _ => goesOn_octalCode _
      · exact goesOn_readCode c
    exact coded.bind fun _ _ => .pure trivial

theorem goesOn_readReference {number back : Nat} {missing : Reader Node}
    (goesOn : GoesOn text missing) : GoesOn text (readReference flags number back missing) := by
  refine .bind .get fun reading _ => ?_
  split
  · exact goesOn
  · exact .fail (.own rfl)
  · split
    · exact .fail (.own rfl)
    · exact .pure trivial

theorem goesOn_readNumericEscape (c : Char) : GoesOn text (readNumericEscape flags c) := by
  refine (goesOn_takeWhile _ _).bind fun second _ => ?_
  refine .ite_bind (goesOn_takeWhile _ _) (.pure trivial) fun third _ => ?_
  dsimp only
  split
  · exact (goesOn_octalCode _).bind fun _ _ => .pure trivial
  · exact goesOn_readReference (.fail (.own rfl))

theorem goesOn_readEscape (c : Char) :
    TellsBehind ['\\', c] text (readEscape flags c) fun _ => True := by
  unfold readEscape
  split
  · exact .pure trivial
  · split
    · exact .pure trivial
    · split
      · exact .pure trivial
      · split
        · exact .pure trivial
        · split
          · exact .pure trivial
          · exact .pure trivial
          · split
            · exact (goesOn_takeWhile _ _).bind fun _ _ => .pure trivial
            · split
              · exact .of_tells (goesOn_readNumericEscape c)
              · exact (goesOn_readCode c).bind fun _ _ => .pure trivial

theorem goesOn_readSetPiece (piece : Piece) :
    TellsBehind piece.toList text (readSetPiece piece) fun _ => True := by
  cases piece with
  | plain c => exact .pure trivial
  | escape c => exact goesOn_readSetEscape c

theorem goesOn_readMembers (start fuel : Nat) (members : List Member) :
    GoesOn text (readMembers start fuel members) := by
  induction fuel generalizing members with
  | zero => exact .failAt (.own rfl)
  | succ fuel induction =>
      refine tells_take_bind (.failAt (.own rfl)) fun piece => ?_
      dsimp only
      split
      · exact .pure trivial
      · refine (goesOn_readSetPiece _).bind fun first _ => ?_
        refine (goesOn_take? _).bind fun ranged _ => ?_
        split
        · refine tells_take_bind (.failAt (.own rfl)) fun final => ?_
          dsimp only
          split
          · exact .pure trivial
          · refine (goesOn_readSetPiece _).bind fun last _ => ?_
            split
            · split
              · exact induction _
              · exact .fail (.own rfl)
            · exact .fail (.own rfl)
        · exact induction _

theorem goesOn_readSet : GoesOn text (readSet flags) := by
  refine goesOn_position.bind fun _ _ => ?_
  refine (goesOn_take? _).bind fun _ _ => ?_
  refine .bind .get fun _ _ => ?_
  exact (goesOn_readMembers _ _ _).bind fun _ _ => .pure trivial

/-! ## Repetitions -/

/-- A bound is refused only if it has too many digits or is too large. -/
theorem goesOn_repetitionBound {digits : List Char} (inside : digits <:+: text)
    (decimal : ∀ c ∈ digits, c.isDigit = true) : GoesOn text (repetitionBound digits) := by
  unfold repetitionBound
  split
  · exact .pure trivial
  · split
    · exact .failAnywhere (.excess (.digits inside decimal ‹_›))
    · dsimp only
      split
      · exact .failAnywhere (.excess (.repetitions inside decimal ‹_›))
      · exact .pure trivial

theorem goesOn_readBounds : GoesOn text readBounds := by
  refine (goesOn_sees _).bind fun closed _ => ?_
  split
  · exact .pure trivial
  · refine .bind .get fun reading within => ?_
    refine (tells_takeWhile _ _).bind fun low first => ?_
    refine (goesOn_take? _).bind fun separated _ => ?_
    refine .ite_bind (tells_takeWhile _ _) (.pure first) fun high second => ?_
    refine (goesOn_take? _).bind fun closed _ => ?_
    split
    · refine (goesOn_repetitionBound first.1 first.2).bind fun least _ => ?_
      refine (goesOn_repetitionBound second.1 second.2).bind fun most _ => ?_
      split
      · exact .failAt (.own rfl)
      · exact .pure trivial
    · -- Without a closing brace all is put back that was taken since the opening one.
      refine .bind (.ofModify fun _ _ => within) fun _ _ => ?_
      exact .pure trivial

theorem goesOn_boundsOf (sign : Char) : GoesOn text (boundsOf sign) := by
  unfold boundsOf
  split
  · exact .pure trivial
  · split
    · exact .pure trivial
    · split
      · exact .pure trivial
      · exact goesOn_readBounds

theorem goesOn_readGreed : GoesOn text readGreed := by
  refine (goesOn_take? _).bind fun _ _ => ?_
  split
  · exact .pure trivial
  · refine (goesOn_take? _).bind fun _ _ => ?_
    split
    · exact .pure trivial
    · exact .pure trivial

theorem goesOn_readRepetition (sign : Char) (done : List Node) :
    GoesOn text (readRepetition flags sign done) := by
  refine goesOn_position.bind fun _ _ => ?_
  refine (goesOn_boundsOf sign).bind fun bounds _ => ?_
  split
  · exact .pure trivial
  · split
    · exact .failAt (.own rfl)
    · exact .failAt (.own rfl)
    · exact .failAt (.own rfl)
    · exact goesOn_readGreed.bind fun _ _ => .pure trivial

/-! ## Groups -/

theorem goesOn_checkGroupName (name : List Char) : GoesOn text (checkGroupName name) := by
  unfold checkGroupName
  split
  · exact .pure trivial
  · exact .fail (.own rfl)

theorem goesOn_groupNamed (name : List Char) : GoesOn text (groupNamed name) := by
  refine .bind .get fun reading _ => ?_
  split
  · exact .pure trivial
  · exact .fail (.own rfl)

theorem goesOn_readNamedOpening : GoesOn text (readNamedOpening flags) := by
  refine (goesOn_take? _).bind fun defines _ => ?_
  split
  · refine (goesOn_takeName _ _).bind fun name _ => ?_
    exact (goesOn_checkGroupName _).bind fun _ _ => .pure trivial
  · refine (goesOn_take? _).bind fun refers _ => ?_
    split
    · refine (goesOn_takeName _ _).bind fun name _ => ?_
      refine (goesOn_checkGroupName _).bind fun _ _ => ?_
      refine (goesOn_groupNamed _).bind fun number _ => ?_
      exact (goesOn_readReference (.fail (.own rfl))).bind fun _ _ => .pure trivial
    · refine goesOn_take.bind fun piece _ => ?_
      split
      · exact .fail (.own rfl)
      · exact .fail (.own rfl)

theorem goesOn_groupNumbered (name : List Char) : GoesOn text (groupNumbered name) := by
  unfold groupNumbered
  split
  · split
    · exact .fail (.own rfl)
    · split
      · exact .fail (.own rfl)
      · refine goesOn_position.bind fun _ _ => ?_
        refine .bind (.ofModify fun reading within => ?_) fun _ _ => .pure trivial
        split
        · exact within
        · exact within
  · exact .fail (.own rfl)

theorem goesOn_checkLookBehind (number : Nat) : GoesOn text (checkLookBehind number) := by
  refine .bind .get fun reading _ => ?_
  split
  · exact .pure trivial
  · split
    · exact .fail (.own rfl)
    · split
      · exact .fail (.own rfl)
      · exact .pure trivial

theorem goesOn_readConditionalOpening : GoesOn text readConditionalOpening := by
  refine (goesOn_takeName _ _).bind fun name _ => ?_
  refine .ite_bind (goesOn_groupNamed _) (goesOn_groupNumbered _) fun number _ => ?_
  exact (goesOn_checkLookBehind _).bind fun _ _ => .pure trivial

theorem goesOn_skipComment (start fuel : Nat) : GoesOn text (skipComment start fuel) := by
  induction fuel with
  | zero => exact .failAt (.own rfl)
  | succ fuel induction =>
      refine goesOn_take.bind fun piece _ => ?_
      split
      · exact .failAt (.own rfl)
      · split
        · exact .pure trivial
        · exact induction

theorem goesOn_readFlagLetters {missing : Fault} {endings : List Char}
    {check : List Char → Reader Unit} (own : missing.kind = .pattern)
    (checks : ∀ letters, GoesOn text (check letters)) (fuel : Nat) (letters : List Char) :
    GoesOn text (readFlagLetters missing endings check fuel letters) := by
  induction fuel generalizing letters with
  | zero => exact .fail (.own own)
  | succ fuel induction =>
      refine (checks _).bind fun _ _ => ?_
      refine goesOn_take.bind fun piece _ => ?_
      split
      · exact .fail (.own own)
      · split
        · exact .pure trivial
        · split
          · exact induction _
          · split
            · exact .fail (.own rfl)
            · exact .fail (.own own)
      · exact .fail (.own own)

theorem goesOn_checkAddedFlag (letters : List Char) : GoesOn text (checkAddedFlag letters) := by
  unfold checkAddedFlag
  split
  · exact .pure trivial
  · split
    · exact .fail (.own rfl)
    · split
      · exact .fail (.own rfl)
      · exact .pure trivial

theorem goesOn_checkRemovedFlag (letters : List Char) :
    GoesOn text (checkRemovedFlag letters) := by
  unfold checkRemovedFlag
  split
  · exact .fail (.own rfl)
  · exact .pure trivial

theorem goesOn_readFlags (first : Char) : GoesOn text (readFlags flags first) := by
  refine .bind .get fun reading _ => ?_
  refine .ite_bind (.pure trivial)
    (goesOn_readFlagLetters rfl goesOn_checkAddedFlag _ _) fun added _ => ?_
  dsimp only
  split
  · refine .bind (.ofModify fun _ within => within) fun _ _ => ?_
    exact .pure trivial
  · split
    · exact .fail (.own rfl)
    · split
      · refine goesOn_take.bind fun piece _ => ?_
        split
        · exact .fail (.own rfl)
        · split
          · split
            · exact .fail (.own rfl)
            · exact .fail (.own rfl)
          · refine (goesOn_readFlagLetters rfl goesOn_checkRemovedFlag _ _).bind fun removed _ => ?_
            split
            · exact .fail (.own rfl)
            · split
              · exact .fail (.own rfl)
              · exact .pure trivial
        · exact .fail (.own rfl)
      · exact .pure trivial

theorem goesOn_readOpening (start : Nat) : GoesOn text (readOpening flags start) := by
  refine (goesOn_take? _).bind fun extended _ => ?_
  split
  · exact .pure trivial
  · refine goesOn_take.bind fun piece _ => ?_
    split
    · exact .fail (.own rfl)
    · split
      · exact goesOn_readNamedOpening
      · split
        · exact .pure trivial
        · split
          · refine .bind .get fun _ _ => ?_
            exact (goesOn_skipComment _ _).bind fun _ _ => .pure trivial
          · split
            · exact .pure trivial
            · split
              · refine goesOn_take.bind fun piece _ => ?_
                split
                · exact .fail (.own rfl)
                · split
                  · exact .pure trivial
                  · exact .fail (.own rfl)
              · split
                · exact goesOn_readConditionalOpening
                · split
                  · exact .pure trivial
                  · split
                    · exact goesOn_readFlags _
                    · exact .fail (.own rfl)
    · exact .fail (.own rfl)

theorem goesOn_openGroup (name : Option (List Char)) : GoesOn text (openGroup name) := by
  refine .bind .get fun reading within => ?_
  dsimp only
  split
  · exact .bind (.set within) fun _ _ => .pure trivial
  · split
    · exact .fail (.own rfl)
    · exact .bind (.set within) fun _ _ => .pure trivial

theorem goesOn_widthOf (node : Node) : GoesOn text (widthOf node) :=
  .bind .get fun _ _ => .pure trivial

theorem goesOn_closeGroup (number : Nat) (body : Node) : GoesOn text (closeGroup number body) :=
  (goesOn_widthOf body).bind fun _ _ => .ofModify fun _ within => within

theorem goesOn_closeParenthesis (start : Nat) : GoesOn text (closeParenthesis start) := by
  refine (goesOn_take? _).bind fun closed _ => ?_
  split
  · exact .pure trivial
  · exact .failAt (.own rfl)

theorem goesOn_insideLookBehind (behind : Bool) {reader : Reader Node}
    (goesOn : GoesOn text reader) : GoesOn text (insideLookBehind behind reader) := by
  refine .bind .get fun reading _ => ?_
  dsimp only
  split
  · refine .bind (.ofModify fun _ within => within) fun _ _ => ?_
    refine goesOn.bind fun node _ => ?_
    refine .bind (.ofModify fun _ within => within) fun _ _ => ?_
    exact .pure trivial
  · exact goesOn

/-! ## Sequences and alternatives -/

theorem goesOn_skipLine (fuel : Nat) : GoesOn text (skipLine fuel) := by
  induction fuel with
  | zero => exact .pure trivial
  | succ fuel induction =>
      refine goesOn_take.bind fun piece _ => ?_
      split
      · exact .pure trivial
      · split
        · exact .pure trivial
        · exact induction

section Deeper

/-- What the readers of sequences, groups and alternatives do with less fuel. -/
structure GoesOnWithin (text : List Char) (fuel : Nat) : Prop where
  nodes (start : Bool) (flags : Flags) (done : List Node) :
    GoesOn text (readNodes fuel start flags done)
  group (start : Bool) (flags : Flags) (done : List Node) :
    GoesOn text (readGroup fuel start flags done)
  branches (start : Bool) (flags : Flags) : GoesOn text (readBranches fuel start flags)

variable {fuel : Nat} (deeper : GoesOnWithin text fuel) (start : Bool)
include deeper

theorem GoesOnWithin.nodes_succ (flags : Flags) (done : List Node) :
    GoesOn text (readNodes (fuel + 1) start flags done) := by
  unfold readNodes
  refine Tells.next_bind (.pure trivial) fun piece => ?_
  split
  · cases ‹some _ = none›
  · exact .of_tells (.pure trivial)
  · exact .of_tells (.pure trivial)
  · rename_i same
    cases same
    refine tellsAhead_take_bind ?_
    split
    · exact (goesOn_readEscape _).bind fun _ _ => deeper.nodes _ _ _
    · refine .of_tells ?_
      split
      · exact deeper.nodes _ _ _
      · split
        · refine .bind .get fun _ _ => ?_
          exact (goesOn_skipLine _).bind fun _ _ => deeper.nodes _ _ _
        · split
          · exact goesOn_readSet.bind fun _ _ => deeper.nodes _ _ _
          · split
            · exact (goesOn_readRepetition _ _).bind fun _ _ => deeper.nodes _ _ _
            · split
              · exact deeper.nodes _ _ _
              · split
                · exact deeper.nodes _ _ _
                · split
                  · exact deeper.nodes _ _ _
                  · split
                    · exact deeper.group _ _ _
                    · exact deeper.nodes _ _ _

theorem GoesOnWithin.group_succ (flags : Flags) (done : List Node) :
    GoesOn text (readGroup (fuel + 1) start flags done) := by
  unfold readGroup
  refine goesOn_position.bind fun place _ => ?_
  refine (goesOn_readOpening _).bind fun opening _ => ?_
  cases opening with
  | comment => exact deeper.nodes _ _ _
  | reference node => exact deeper.nodes _ _ _
  | globalFlags flags =>
      dsimp only
      split
      · exact deeper.nodes _ _ _
      · exact .failAt (.own rfl)
  | capture name =>
      refine (goesOn_openGroup _).bind fun number _ => ?_
      refine (deeper.branches _ _).bind fun body _ => ?_
      refine (goesOn_closeParenthesis _).bind fun _ _ => ?_
      exact (goesOn_closeGroup _ _).bind fun _ _ => deeper.nodes _ _ _
  | scope inner | atomic =>
      refine (deeper.branches _ _).bind fun body _ => ?_
      exact (goesOn_closeParenthesis _).bind fun _ _ => deeper.nodes _ _ _
  | look behind negated =>
      have inside : GoesOn text (do return (← readBranches fuel false flags).1) :=
        (deeper.branches _ _).bind fun _ _ => .pure trivial
      refine (goesOn_insideLookBehind _ inside).bind fun body _ => ?_
      refine (goesOn_closeParenthesis _).bind fun _ _ => ?_
      split
      · exact (goesOn_widthOf _).bind fun _ _ => deeper.nodes _ _ _
      · exact deeper.nodes _ _ _
  | conditional number =>
      refine (deeper.nodes _ _ _).bind fun present _ => ?_
      have alternative : GoesOn text (do
          if ← take? '|' then
            let absent ← readNodes fuel false flags []
            if ← sees '|' then fail .tooManyBranches 0 else return absent.1
          else return .empty) := by
        refine (goesOn_take? _).bind fun more _ => ?_
        split
        · refine (deeper.nodes _ _ _).bind fun absent _ => ?_
          refine (goesOn_sees _).bind fun further _ => ?_
          split
          · exact .fail (.own rfl)
          · exact .pure trivial
        · exact .pure trivial
      refine alternative.bind fun absent _ => ?_
      exact (goesOn_closeParenthesis _).bind fun _ _ => deeper.nodes _ _ _

theorem GoesOnWithin.branches_succ (flags : Flags) :
    GoesOn text (readBranches (fuel + 1) start flags) := by
  unfold readBranches
  refine (deeper.nodes _ _ _).bind fun first _ => ?_
  refine (goesOn_take? _).bind fun more _ => ?_
  split
  · exact (deeper.branches _ _).bind fun _ _ => .pure trivial
  · exact .pure trivial

end Deeper

theorem goesOnWithin (fuel : Nat) : GoesOnWithin text fuel := by
  induction fuel with
  | zero =>
      constructor
      · intro start flags done
        rw [readNodes]
        exact .fail (.own rfl)
      · intro start flags done
        rw [readGroup]
        exact .fail (.own rfl)
      · intro start flags
        rw [readBranches]
        exact .fail (.own rfl)
  | succ fuel induction =>
      exact ⟨induction.nodes_succ, induction.group_succ, induction.branches_succ⟩

/-! ## Whole patterns -/

theorem kind_of_fault? {template : Bool} {node : Node} {fault : Fault}
    (found : node.fault? template = some fault) : fault.kind = .pattern := by
  fun_induction Node.fault? template node <;>
    grind [Fault.kind, Option.or_eq_some_iff, → Option.some.inj]

theorem goesOn_readWhole (fuel : Nat) : GoesOn text (readWhole fuel) := by
  refine ((goesOnWithin fuel).branches _ _).bind fun read _ => ?_
  refine .bind .get fun reading _ => ?_
  split
  · exact .failAnywhere (.excess .flags)
  · split
    · exact .fail (.own rfl)
    · split
      · exact .failAt (.own rfl)
      · split
        · exact .failAnywhere (.own (kind_of_fault? ‹_›))
        · exact .pure trivial

end Runbook.Pattern

namespace Runbook

/-- A text is refused as a pattern for an error in it, for a number of repetitions or the code of a
character that stands in it, or for contrary flags. -/
theorem Pattern.refusal_of_ofText {characters : CharacterNames} {text : String}
    {error : Pattern.Error} (refused : Pattern.ofText characters text = .error error) :
    Refusal text.toList error.fault := by
  unfold ofText at refused
  dsimp only at refused
  rcases Reader.load_cases text.toList text.toList 0 with
    ⟨source, loaded, left⟩ | ⟨other, loaded, same⟩
  · rw [Source.ofText, loaded, Results.ok_bind] at refused
    have reads := goesOn_readWhole (3 * text.toList.length + 10)
      ⟨characters, source, [], [], none, [], false, false, false⟩ ⟨[], left⟩
    rcases Results.bind_eq_error_iff.mp refused with failed | ⟨_, _, returned⟩
    · rw [failed] at reads
      exact reads
    · cases returned
  · rw [Source.ofText, loaded] at refused
    cases refused
    exact .own (by rw [same]; rfl)

/-- A code as large as this one is refused before anyone asks whether a character has it. -/
example : Pattern.ofText (fun _ => none) "\\U80000000" =
    .error ⟨.codeTooLarge, none, "\\U80000000".toList⟩ := by
  decide +kernel

end Runbook
