import Spreadsheet.Proofs.Formula.Quotations

/-!
# Scanning by byte offsets

Lexemes are cut off the front of a list of characters. A scanner keeps no more than the byte offset
of the next character: for every character it looks at the text behind that offset, and it goes on
by the bytes of that character, or by those of an error code at once. It is stuck as soon as the
offset is inside of a character or behind the end of the text.

A scanner is never stuck. Every call finds the next lexeme or the end of the text, and since a
lexeme has at least one character, the end is reached. The lexemes are in order, and between them
lie only blanks.
-/

namespace Spreadsheet
namespace Formula

variable {text : String} {position start : Nat} {c : Char} {u cs rest : List Char}

/-! ## Looking at a text -/

/-- The characters behind a byte offset. There are none inside of a character or behind the end. -/
def charsFrom? (text : String) (position : Nat) : Option (List Char) :=
  (Text.cutAt? position text.toList).map Prod.snd

theorem charsFrom?_eq_some_iff : charsFrom? text position = some cs ↔
    ∃ before, text.toList = before ++ cs ∧ position = Text.size before := by
  rw [charsFrom?, Option.map_eq_some_iff]
  simp only [Prod.exists, Text.cutAt?_eq_some_iff]
  constructor
  · rintro ⟨before, _, cut, rfl⟩
    exact ⟨before, cut⟩
  · rintro ⟨before, cut⟩
    exact ⟨before, cs, cut, rfl⟩

theorem charsFrom?_zero (text : String) : charsFrom? text 0 = some text.toList :=
  charsFrom?_eq_some_iff.mpr ⟨[], rfl, rfl⟩

/-- Behind characters that stand at an offset stands what follows them. -/
theorem charsFrom?_append (found : charsFrom? text position = some (u ++ rest)) :
    charsFrom? text (position + Text.size u) = some rest := by
  obtain ⟨before, whole, rfl⟩ := charsFrom?_eq_some_iff.mp found
  rw [charsFrom?_eq_some_iff]
  exact ⟨before ++ u, by rw [whole, List.append_assoc], (Text.size_append before u).symm⟩

theorem charsFrom?_cons (found : charsFrom? text position = some (c :: cs)) :
    charsFrom? text (position + c.utf8Size) = some cs :=
  charsFrom?_append (u := [c]) found

theorem utf8ByteSize_eq_size (text : String) : text.utf8ByteSize = Text.size text.toList := by
  have sizes (cs : List Char) : (String.ofList cs).utf8ByteSize = Text.size cs := by
    induction cs with
    | nil => rfl
    | cons c cs ih =>
        rw [← List.singleton_append, String.ofList_append, String.utf8ByteSize_append,
          ← String.singleton_eq_ofList, String.utf8ByteSize_singleton, ih, List.singleton_append,
          Text.size]
  rw [← sizes, String.ofList_toList]

/-- What stands behind an offset takes the rest of the bytes. -/
theorem add_size_eq (found : charsFrom? text position = some cs) :
    position + Text.size cs = text.utf8ByteSize := by
  obtain ⟨before, whole, rfl⟩ := charsFrom?_eq_some_iff.mp found
  rw [utf8ByteSize_eq_size, whole, Text.size_append]

/-- Fewer bytes remain behind the next character. -/
theorem remaining_lt (found : charsFrom? text position = some (c :: cs)) :
    text.utf8ByteSize - (position + c.utf8Size) < text.utf8ByteSize - position := by
  have bytes := add_size_eq found
  have positive := c.utf8Size_pos
  rw [Text.size] at bytes
  omega

/-! ## Scanners -/

/-- Passes over the next character if it is of a kind. -/
def passOne? (kind : Char → Bool) (text : String) (position : Nat) : Option Nat :=
  (charsFrom? text position).map fun cs =>
    match cs with
    | c :: _ => if kind c then position + c.utf8Size else position
    | [] => position

/-- Passes over characters as long as they are of a kind. -/
def passWhile? (kind : Char → Bool) (text : String) (position : Nat) : Option Nat :=
  match _ : charsFrom? text position with
  | none => none
  | some [] => some position
  | some (c :: _) =>
    if kind c then passWhile? kind text (position + c.utf8Size) else some position
termination_by text.utf8ByteSize - position
decreasing_by exact remaining_lt ‹_›

/-- Passes over digits, and once over a point that a digit follows, unless there has been a
point. -/
def passDigits? (hasPoint : Bool) (text : String) (position : Nat) : Option Nat :=
  match _ : charsFrom? text position with
  | none => none
  | some [] => some position
  | some (c :: cs) =>
    if c.isDigit then passDigits? hasPoint text (position + c.utf8Size)
    else if c = '.' && !hasPoint && cs.head?.any Char.isDigit then
      passDigits? true text (position + c.utf8Size)
    else some position
termination_by text.utf8ByteSize - position
decreasing_by all_goals exact remaining_lt ‹_›

/-- Passes over a closing quote and all in front of it, or over all that is left. A backslash hides
the character after it. -/
def passQuoted? (text : String) (position : Nat) : Option Nat :=
  match _ : charsFrom? text position with
  | none => none
  | some [] => some position
  | some (c :: _) =>
    if c = '"' then some (position + c.utf8Size)
    else if c = '\\' then
      match _ : charsFrom? text (position + c.utf8Size) with
      | none => none
      | some [] => some (position + c.utf8Size)
      | some (d :: _) => passQuoted? text (position + c.utf8Size + d.utf8Size)
    else passQuoted? text (position + c.utf8Size)
termination_by text.utf8ByteSize - position
decreasing_by
  · exact (remaining_lt ‹_›).trans (remaining_lt ‹_›)
  · exact remaining_lt ‹_›

/-- As many bytes as the spelling has begin the text and spell it, whatever the case of letters. -/
def beginsWithBytes (spelling : String) (cs : List Char) : Bool :=
  match Text.cutAt? spelling.utf8ByteSize cs with
  | some (front, _) => front.map Char.toUpper == spelling.toList
  | none => false

/-- Passes over the bytes of an error code, or over its sign alone. -/
def passError? (text : String) (position : Nat) : Option Nat :=
  (charsFrom? text position).map fun cs =>
    match ErrorCode.spellings.find? fun (spelling, _) => beginsWithBytes spelling cs with
    | some (spelling, _) => position + spelling.utf8ByteSize
    | none => position + '#'.utf8Size

/-- Passes over the token that begins with the character `c`. -/
def passToken? (text : String) (start : Nat) (c : Char) : Option Nat :=
  let next := start + c.utf8Size
  if (plainSymbol? c).isSome then some next
  else if c = '<' then passOne? (fun d => d == '=' || d == '>') text next
  else if c = '>' then passOne? (fun d => d == '=') text next
  else if c = '"' then passQuoted? text next
  else if c = '#' then passError? text start
  else if c = '.' then passDigits? true text next
  else if c.isDigit then passDigits? false text next
  else if startsWord c then passWhile? continuesWord text next
  else some next

/-- One call of a scanner: where the next token begins, and where it ends. At the end of the text
there is none. -/
def call? (text : String) (position : Nat) : Option (Nat × Option Nat) := do
  let start ← passWhile? Text.isBlank text position
  match ← charsFrom? text start with
  | [] => return (start, none)
  | c :: _ => return (start, some (← passToken? text start c))

/-- Calls from a byte offset on find tokens at the given places and then the end of the text. -/
inductive Scans (text : String) : Nat → List (Nat × Nat) → Prop where
  | finish {position stop : Nat} : call? text position = some (stop, none) → Scans text position []
  | token {position start stop : Nat} {spans : List (Nat × Nat)} :
      call? text position = some (start, some stop) → Scans text stop spans →
      Scans text position ((start, stop) :: spans)

/-! ## Where scanners stop -/

theorem passOne?_eq {kind : Char → Bool} (found : charsFrom? text position = some cs) :
    passOne? kind text position = some (position + Text.size ((cs.take 1).takeWhile kind)) := by
  rw [passOne?, found, Option.map_some]
  cases cs with
  | nil => rfl
  | cons c cs => cases fits : kind c <;> simp [fits, Text.size]

theorem passWhile?_nil {kind : Char → Bool} (found : charsFrom? text position = some []) :
    passWhile? kind text position = some position := by
  rw [passWhile?]
  split <;> simp_all

theorem passWhile?_cons {kind : Char → Bool} (found : charsFrom? text position = some (c :: cs)) :
    passWhile? kind text position =
      if kind c then passWhile? kind text (position + c.utf8Size) else some position := by
  rw [passWhile?]
  split <;> rename_i looked <;> rw [found] at looked <;> cases looked
  rfl

theorem passWhile?_eq {kind : Char → Bool} (found : charsFrom? text position = some cs) :
    passWhile? kind text position = some (position + Text.size (cs.takeWhile kind)) := by
  induction cs generalizing position with
  | nil => exact passWhile?_nil found
  | cons c cs ih =>
      rw [passWhile?_cons found]
      split
      · rename_i fits
        rw [ih (charsFrom?_cons found), List.takeWhile_cons_of_pos fits, Text.size, Nat.add_assoc]
      · rename_i other
        rw [List.takeWhile_cons_of_neg other]
        rfl

theorem passDigits?_nil {hasPoint : Bool} (found : charsFrom? text position = some []) :
    passDigits? hasPoint text position = some position := by
  rw [passDigits?]
  split <;> simp_all

theorem passDigits?_cons {hasPoint : Bool} (found : charsFrom? text position = some (c :: cs)) :
    passDigits? hasPoint text position =
      if c.isDigit then passDigits? hasPoint text (position + c.utf8Size)
      else if c = '.' && !hasPoint && cs.head?.any Char.isDigit then
        passDigits? true text (position + c.utf8Size)
      else some position := by
  rw [passDigits?]
  split <;> rename_i looked <;> rw [found] at looked <;> cases looked
  rfl

/-- Behind a point only digits are passed over. -/
theorem passDigits?_true (found : charsFrom? text position = some cs) :
    passDigits? true text position = some (position + Text.size (cs.takeWhile Char.isDigit)) := by
  induction cs generalizing position with
  | nil => exact passDigits?_nil found
  | cons c cs ih =>
      rw [passDigits?_cons found]
      split
      · rename_i digit
        rw [ih (charsFrom?_cons found), List.takeWhile_cons_of_pos digit, Text.size, Nat.add_assoc]
      · rename_i other
        rw [List.takeWhile_cons_of_neg other, if_neg (by simp)]
        rfl

theorem pointed_cons (c : Char) (cs : List Char) : pointed (c :: cs) =
    if c = '.' && cs.head?.any Char.isDigit then '.' :: cs.takeWhile Char.isDigit else [] := by
  rw [pointed, places.eq_def]
  by_cases point : c = '.'
  · subst point
    cases cs with
    | nil => rfl
    | cons d cs => cases digit : d.isDigit <;> simp [digit]
  · simp [point]

/-- In front of the point are digits, and a point is passed over with the digits behind it. -/
theorem passDigits?_false (found : charsFrom? text position = some cs) :
    passDigits? false text position =
      some (position + Text.size
        (cs.takeWhile Char.isDigit ++ pointed (cs.dropWhile Char.isDigit))) := by
  induction cs generalizing position with
  | nil => exact passDigits?_nil found
  | cons c cs ih =>
      have behind := charsFrom?_cons found
      rw [passDigits?_cons found]
      split
      · rename_i digit
        rw [ih behind, List.takeWhile_cons_of_pos digit, List.dropWhile_cons_of_pos digit,
          List.cons_append, Text.size, Nat.add_assoc]
      rename_i other
      rw [List.takeWhile_cons_of_neg other, List.dropWhile_cons_of_neg other, List.nil_append,
        pointed_cons]
      split
      · rename_i point
        simp only [Bool.not_false, Bool.and_true, Bool.and_eq_true, decide_eq_true_eq] at point
        rw [passDigits?_true behind, if_pos (by simpa using point), point.1, Text.size,
          Nat.add_assoc]
      · rename_i no_point
        rw [if_neg (by simpa using no_point)]
        rfl

theorem passQuoted?_nil (found : charsFrom? text position = some []) :
    passQuoted? text position = some position := by
  rw [passQuoted?]
  split <;> simp_all

theorem passQuoted?_quote (found : charsFrom? text position = some ('"' :: cs)) :
    passQuoted? text position = some (position + '"'.utf8Size) := by
  rw [passQuoted?]
  split <;> rename_i looked <;> rw [found] at looked <;> cases looked
  rfl

theorem passQuoted?_escape (found : charsFrom? text position = some ('\\' :: c :: cs)) :
    passQuoted? text position = passQuoted? text (position + '\\'.utf8Size + c.utf8Size) := by
  rw [passQuoted?]
  split <;> rename_i looked <;> rw [found] at looked <;> cases looked
  rw [if_neg (by decide), if_pos rfl]
  split <;> rename_i looked <;> rw [charsFrom?_cons found] at looked <;> cases looked
  rfl

/-- A backslash at the very end hides nothing and is passed over as another character is. -/
theorem passQuoted?_other (found : charsFrom? text position = some (c :: cs)) (no_quote : c ≠ '"')
    (no_escape : c = '\\' → cs = []) :
    passQuoted? text position = passQuoted? text (position + c.utf8Size) := by
  have behind := charsFrom?_cons found
  rw [passQuoted?]
  split <;> rename_i looked <;> rw [found] at looked <;> cases looked
  rw [if_neg no_quote]
  split
  · rename_i escape
    obtain rfl := no_escape escape
    rw [passQuoted?_nil behind]
    split <;> rename_i looked <;> rw [behind] at looked <;> cases looked
  · rfl

theorem passQuoted?_eq (found : charsFrom? text position = some cs) :
    passQuoted? text position = some (position + Text.size (cs.take (quotedLength cs))) := by
  induction cs using quotedLength.induct generalizing position with
  | case1 => exact passQuoted?_nil found
  | case2 cs => exact passQuoted?_quote found
  | case3 c cs ih =>
      rw [passQuoted?_escape found, ih (charsFrom?_cons (charsFrom?_cons found)), quotedLength,
        List.take_succ_cons, List.take_succ_cons, Text.size, Text.size, Nat.add_assoc,
        Nat.add_assoc]
  | case4 c cs no_quote no_escape ih =>
      have last (escape : c = '\\') : cs = [] := by
        cases cs with
        | nil => rfl
        | cons d cs => exact (no_escape d cs escape rfl).elim
      rw [passQuoted?_other found no_quote last, ih (charsFrom?_cons found),
        quotedLength.eq_4 _ _ no_quote no_escape, List.take_succ_cons, Text.size, Nat.add_assoc]

theorem utf8Size_toUpper (c : Char) : c.toUpper.utf8Size = c.utf8Size := by
  have single {d : Char} (ascii : d.toNat ≤ 127) : d.utf8Size = 1 := if_pos ascii
  by_cases lower : 97 ≤ c.toNat ∧ c.toNat ≤ 122
  · have upper := Text.toNat_toUpper (c := c)
    rw [if_pos lower] at upper
    rw [single (by omega), single (by omega)]
  · rw [Char.toNat_inj.mp (Text.toNat_toUpper.trans (if_neg lower))]

theorem size_map_toUpper (cs : List Char) : Text.size (cs.map Char.toUpper) = Text.size cs := by
  induction cs with
  | nil => rfl
  | cons c cs ih => rw [List.map_cons, Text.size, Text.size, utf8Size_toUpper, ih]

/-- The letters of a spelling take as many bytes in either case, so it does not matter whether
bytes or characters are counted. -/
theorem beginsWithBytes_eq (spelling : String) (cs : List Char) :
    beginsWithBytes spelling cs = beginsWith spelling cs := by
  rw [Bool.eq_iff_iff, beginsWith, beq_iff_eq, beginsWithBytes]
  constructor
  · intro begins
    split at begins
    · rename_i front back cut
      obtain ⟨rfl, -⟩ := Text.cutAt?_eq_some_iff.mp cut
      rw [beq_iff_eq] at begins
      have length : spelling.length = front.length := by
        rw [← String.length_toList, ← begins, List.length_map]
      rw [length, List.take_left, begins]
    · contradiction
  · intro begins
    have bytes : spelling.utf8ByteSize = Text.size (cs.take spelling.length) := by
      rw [utf8ByteSize_eq_size, ← begins, size_map_toUpper]
    have cut := Text.cutAt?_size (cs.take spelling.length) (cs.drop spelling.length)
    rw [List.take_append_drop] at cut
    rw [bytes, cut]
    exact beq_iff_eq.mpr begins

theorem passError?_eq (found : charsFrom? text position = some ('#' :: cs)) :
    passError? text position =
      some (position + Text.size ('#' :: cs.take (readError ('#' :: cs)).2)) := by
  rw [passError?, found, Option.map_some]
  simp only [beginsWithBytes_eq]
  split
  · rename_i spelling code read
    rw [utf8ByteSize_eq_size, ← map_toUpper_readError read, size_map_toUpper]
  · rename_i nothing
    rw [readError, nothing]
    rfl

/-- A scanner passes over the characters of the token that a reader sees. -/
theorem passToken?_eq (found : charsFrom? text start = some (c :: cs)) :
    passToken? text start c = some (start + Text.size (c :: cs.take (readToken c cs).2)) := by
  have next := charsFrom?_cons found
  rw [passToken?, readToken, Text.size, ← Nat.add_assoc]
  cases plainSymbol? c with
  | some s => rfl
  | none =>
      dsimp only
      rw [if_neg (by simp)]
      split
      · rw [passOne?_eq next, readLess.eq_def]
        split
        · rfl
        · rfl
        · cases cs <;> simp_all
      split
      · rw [passOne?_eq next, readGreater.eq_def]
        split
        · rfl
        · cases cs <;> simp_all
      split
      · rw [passQuoted?_eq next, (readQuoted_eq cs).2]
      split
      · rename_i sign
        subst sign
        rw [passError?_eq found, Text.size, Nat.add_assoc]
      split
      · rw [passDigits?_true next, readPoint]
        split
        · rename_i no_digit
          rw [List.isEmpty_iff.mp no_digit, List.take_zero]
        · rw [take_length_takeWhile]
      split
      · rw [passDigits?_false next, take_readNumber]
      split
      · rw [passWhile?_eq next, readWord, take_length_takeWhile]
      · rfl

/-! ## Calls -/

theorem Takes.size_pos {t : Token} (takes : Takes u rest t) : 0 < Text.size u := by
  obtain ⟨c, w, rfl, _⟩ := takes
  have := c.utf8Size_pos
  rw [Text.size]
  omega

/-- A call passes over blanks. Then it has come to the end of the text, or it passes over a
token. -/
theorem call?_spec (found : charsFrom? text position = some cs) :
    (call? text position = some (position + Text.size cs, none) ∧ ∀ c ∈ cs, Text.isBlank c) ∨
      ∃ blanks u rest t, cs = blanks ++ (u ++ rest) ∧ (∀ c ∈ blanks, Text.isBlank c) ∧
        Takes u rest t ∧
        call? text position =
          some (position + Text.size blanks,
            some (position + Text.size blanks + Text.size u)) := by
  have whole := cs.takeWhile_append_dropWhile (p := Text.isBlank)
  have skipped : passWhile? Text.isBlank text position =
      some (position + Text.size (cs.takeWhile Text.isBlank)) := passWhile?_eq found
  have behind : charsFrom? text (position + Text.size (cs.takeWhile Text.isBlank)) =
      some (cs.dropWhile Text.isBlank) := charsFrom?_append (by rw [whole, found])
  rw [call?, skipped, Option.bind_eq_bind, Option.bind_some, behind, Option.bind_eq_bind,
    Option.bind_some]
  have blank : ∀ c ∈ cs.takeWhile Text.isBlank, Text.isBlank c := fun c => List.mem_takeWhile_imp
  cases left : cs.dropWhile Text.isBlank with
  | nil =>
      rw [left, List.append_nil] at whole
      rw [whole] at blank ⊢
      exact .inl ⟨rfl, blank⟩
  | cons c rest =>
      have dark : ¬ Text.isBlank c := by
        have head := List.head?_dropWhile_not Text.isBlank cs
        simpa [left] using head
      rw [left] at behind
      refine .inr ⟨_, _, _, _, ?_, blank, takes_readToken dark rest, ?_⟩
      · rw [List.cons_append, List.take_append_drop, ← left, whole]
      · dsimp only
        rw [passToken?_eq behind]
        rfl

/-! ## Runs -/

/-- The byte offset is in front of a character of the text or at its end. -/
def IsBoundary (text : String) (position : Nat) : Prop := String.Pos.Raw.IsValid text ⟨position⟩

theorem isBoundary_iff : IsBoundary text position ↔ ∃ cs, charsFrom? text position = some cs := by
  rw [IsBoundary, String.Pos.Raw.isValid_iff_exists_append]
  simp only [charsFrom?_eq_some_iff]
  constructor
  · rintro ⟨front, behind, rfl, same⟩
    refine ⟨behind.toList, front.toList, String.toList_append, ?_⟩
    rw [← utf8ByteSize_eq_size]
    exact congrArg String.Pos.Raw.byteIdx same
  · rintro ⟨cs, before, whole, rfl⟩
    refine ⟨String.ofList before, String.ofList cs, ?_, ?_⟩
    · rw [← String.ofList_append, ← whole, String.ofList_toList]
    · rw [String.Pos.Raw.ext_iff, String.byteIdx_rawEndPos, utf8ByteSize_eq_size,
        String.toList_ofList]

/-- The places of the tokens behind an offset are in order, each has room for a character, and what
lies between them is blank. -/
structure Covers (text : String) (position : Nat) (spans : List (Nat × Nat)) : Prop where
  /-- Tokens begin and end between characters, and not where they begin. -/
  tokens : ∀ span ∈ spans, position ≤ span.1 ∧ span.1 < span.2 ∧
    IsBoundary text span.1 ∧ IsBoundary text span.2
  /-- A token ends before the next one begins. -/
  ordered : spans.Pairwise fun span other => span.2 ≤ other.1
  /-- A character in no token is a blank. -/
  blank_outside : ∀ before c after, text.toList = before ++ c :: after →
    position ≤ Text.size before →
    (∀ span ∈ spans, ¬ (span.1 ≤ Text.size before ∧ Text.size before < span.2)) → Text.isBlank c

/-- A character in front of the end of a prefix is one of the prefix. -/
theorem mem_of_size_lt {before after : List Char} (whole : u ++ rest = before ++ c :: after)
    (inside : Text.size before < Text.size u) : c ∈ u := by
  rcases List.append_eq_append_iff.mp whole with ⟨more, rfl, _⟩ | ⟨more, rfl, tail⟩
  · rw [Text.size_append] at inside
    omega
  · cases more with
    | nil => simp at inside
    | cons d more =>
        obtain ⟨rfl, _⟩ := List.cons.inj tail
        simp

/-- What is behind the end of a prefix comes after it. -/
theorem exists_append_of_size_le {before after : List Char} (whole : u ++ rest = before ++ after)
    (behind : Text.size u ≤ Text.size before) :
    ∃ more, before = u ++ more ∧ rest = more ++ after := by
  rcases List.append_eq_append_iff.mp whole with ⟨more, rfl, tail⟩ | ⟨more, rfl, tail⟩
  · exact ⟨more, rfl, tail⟩
  · cases more with
    | nil => exact ⟨[], by simp, tail.symm⟩
    | cons d more =>
        have := d.utf8Size_pos
        rw [Text.size_append, Text.size] at behind
        omega

/-- Calls that find tokens until the text ends leave out only blanks. -/
theorem Scans.covers {spans : List (Nat × Nat)} (scans : Scans text position spans)
    (boundary : IsBoundary text position) : Covers text position spans := by
  induction scans with
  | @finish position stop called =>
      obtain ⟨cs, found⟩ := isBoundary_iff.mp boundary
      rcases call?_spec found with ⟨_, blank⟩ | ⟨_, _, _, _, _, _, _, other⟩
      · refine ⟨by simp, .nil, fun before c after whole behind _ => ?_⟩
        obtain ⟨front, text_eq, rfl⟩ := charsFrom?_eq_some_iff.mp found
        obtain ⟨more, _, rfl⟩ := exists_append_of_size_le (text_eq.symm.trans whole) behind
        exact blank c (by simp)
      · rw [called] at other
        cases other
  | @token position start stop spans called _ ih =>
      obtain ⟨cs, found⟩ := isBoundary_iff.mp boundary
      rcases call?_spec found with ⟨other, _⟩ | ⟨blanks, u, rest, t, rfl, blank, takes, same⟩
      · rw [called] at other
        cases other
      rw [called, Option.some.injEq, Prod.mk.injEq, Option.some.injEq] at same
      obtain ⟨rfl, rfl⟩ := same
      have at_start := charsFrom?_append found
      have at_stop := charsFrom?_append at_start
      have room := takes.size_pos
      have later := ih (isBoundary_iff.mpr ⟨_, at_stop⟩)
      have token_first : ∀ span ∈ spans, position + Text.size blanks + Text.size u ≤ span.1 :=
        fun span member => (later.tokens span member).1
      refine ⟨?_, List.pairwise_cons.mpr ⟨token_first, later.ordered⟩, ?_⟩
      · rw [List.forall_mem_cons]
        refine ⟨⟨by dsimp only; omega, by dsimp only; omega, isBoundary_iff.mpr ⟨_, at_start⟩,
          isBoundary_iff.mpr ⟨_, at_stop⟩⟩, fun span member => ?_⟩
        obtain ⟨behind, token⟩ := later.tokens span member
        exact ⟨by omega, token⟩
      · intro before c after whole behind outside
        rw [List.forall_mem_cons] at outside
        by_cases passed : position + Text.size blanks + Text.size u ≤ Text.size before
        · exact later.blank_outside before c after whole passed outside.2
        · -- The character stands in front of the token, among the blanks.
          obtain ⟨front, text_eq, rfl⟩ := charsFrom?_eq_some_iff.mp found
          obtain ⟨more, rfl, tail⟩ := exists_append_of_size_le (text_eq.symm.trans whole) behind
          rw [Text.size_append] at outside passed
          refine blank c (mem_of_size_lt tail ?_)
          have := outside.1
          dsimp only at this
          omega

/-! ## Lexemes -/

theorem lexemesFrom_append_of_blank {blanks : List Char} (blank : ∀ c ∈ blanks, Text.isBlank c)
    (offset : Nat) (cs : List Char) :
    lexemesFrom offset (blanks ++ cs) = lexemesFrom (offset + Text.size blanks) cs := by
  induction blanks generalizing offset with
  | nil => rfl
  | cons c blanks ih =>
      rw [List.forall_mem_cons] at blank
      rw [List.cons_append, lexemesFrom, if_pos blank.1, ih blank.2, Text.size, Nat.add_assoc]

theorem lexemesFrom_append_of_takes {t : Token} (takes : Takes u rest t) (offset : Nat) :
    lexemesFrom offset (u ++ rest) =
      ⟨t, offset, u⟩ :: lexemesFrom (offset + Text.size u) rest := by
  obtain ⟨c, w, rfl, dark, read⟩ := takes
  rw [List.cons_append, lexemesFrom, if_neg dark, read]
  simp only [List.take_left, List.drop_left, Lexeme.stop]

/-- Where a lexeme begins and where it ends. -/
def Lexeme.span (l : Lexeme) : Nat × Nat := (l.start, l.stop)

/-- Calls find one lexeme after another. -/
theorem scans_lexemesFrom (found : charsFrom? text position = some cs) :
    Scans text position ((lexemesFrom position cs).map Lexeme.span) := by
  generalize size : cs.length = n
  induction n using Nat.strongRecOn generalizing position cs with
  | ind n ih =>
      rcases call?_spec found
        with ⟨finish, blank⟩ | ⟨blanks, u, rest, t, rfl, blank, takes, called⟩
      · have none : lexemesFrom position cs = [] := by
          rw [← List.append_nil cs, lexemesFrom_append_of_blank blank, lexemesFrom]
        rw [none]
        exact .finish finish
      · have at_stop := charsFrom?_append (charsFrom?_append found)
        rw [lexemesFrom_append_of_blank blank, lexemesFrom_append_of_takes takes]
        refine .token called (ih _ ?_ at_stop rfl)
        obtain ⟨c, w, rfl, _⟩ := takes
        rw [← size, List.length_append, List.length_append, List.length_cons]
        omega

/-- Scanning makes progress and leaves nothing out. Calls from the beginning of a text find its
lexemes and then its end, so there are finitely many of them; the lexemes are in order, and what
lies between them is blank. A call from between any two characters gives an answer, and again it
stops between two characters. It has found the end of the text, or else it has passed over at least
one character. -/
theorem scanning_covers_text (text : String) :
    Scans text 0 ((lexemes text).map Lexeme.span) ∧
      Covers text 0 ((lexemes text).map Lexeme.span) ∧
      ∀ position, IsBoundary text position →
        ∃ start answer, call? text position = some (start, answer) ∧ position ≤ start ∧
          IsBoundary text start ∧ (answer = none → start = text.utf8ByteSize) ∧
          ∀ stop, answer = some stop → start < stop ∧ IsBoundary text stop := by
  have scans := scans_lexemesFrom (charsFrom?_zero text)
  refine ⟨scans, scans.covers (isBoundary_iff.mpr ⟨_, charsFrom?_zero text⟩), ?_⟩
  intro position boundary
  obtain ⟨cs, found⟩ := isBoundary_iff.mp boundary
  rcases call?_spec found with ⟨called, _⟩ | ⟨blanks, u, rest, t, rfl, _, takes, called⟩
  · have at_end : charsFrom? text (position + Text.size cs) = some [] :=
      charsFrom?_append (by rwa [List.append_nil])
    exact ⟨_, _, called, Nat.le_add_right _ _, isBoundary_iff.mpr ⟨_, at_end⟩,
      fun _ => add_size_eq found, by simp⟩
  · have at_start := charsFrom?_append found
    have room := takes.size_pos
    refine ⟨_, _, called, Nat.le_add_right _ _, isBoundary_iff.mpr ⟨_, at_start⟩, by simp, ?_⟩
    rintro stop ⟨rfl⟩
    exact ⟨by omega, isBoundary_iff.mpr ⟨_, charsFrom?_append at_start⟩⟩

/-- A letter of two bytes is a token of its own, an error code is spelled in small letters, and a
quotation that is never closed reaches over a character of three bytes. -/
theorem scanning_covers_text_of_wide_characters :
    let text := "é #ref!\"日"
    (lexemes text).map Lexeme.span = [(0, 2), (3, 8), (8, 12)] ∧ IsBoundary text 2 ∧
      ∃ start answer, call? text 2 = some (start, answer) ∧ 2 ≤ start ∧ IsBoundary text start ∧
        (answer = none → start = text.utf8ByteSize) ∧
        ∀ stop, answer = some stop → start < stop ∧ IsBoundary text stop := by
  intro text
  have boundary : IsBoundary text 2 := isBoundary_iff.mpr ⟨" #ref!\"日".toList, by decide⟩
  exact ⟨by decide +kernel, boundary, (scanning_covers_text text).2.2 2 boundary⟩

example : call? "é #ref!\"日" 2 = some (3, some 8) := by decide +kernel

end Formula
end Spreadsheet
