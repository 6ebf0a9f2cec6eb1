import Spreadsheet.Proofs.Formula.Acceptance

/-!
# The names of calls in relocated texts

Relocation is not meant to touch the names of calls, but a name with a colon in it can hold what
looks like a reference. The names of a relocated text are those of the text exactly if none of
them, in front of a parenthesis, is changed by relocation. A name that loses a reference is no name
any more: it is cut at the code for the reference, and a colon of it gets lost with the reference
or becomes illegal. So the names of a text have fewer colons once one of them has lost a reference,
and they cannot be the same.
-/

namespace Spreadsheet
namespace Formula

/-- The names of the calls in a text, from left to right. -/
def calledNames (text : String) : List String :=
  (lexemes text).flatMap fun lexeme => lexeme.token.names

/-- The names of the calls among characters. -/
def namesOf (cs : List Char) : List String := (tokensOf cs).flatMap Token.names

/-- The number of colons in names. -/
def colons (names : List String) : Nat := (names.flatMap String.toList).count ':'

/-- The character can stand in a relocated name: in a word or in the code for a lost reference. -/
def IsCode (c : Char) : Prop := continuesWord c ∨ c = '#' ∨ c = '!'

/-- If a reference is lost in the characters, there is a colon behind the code for it. -/
def LosesAtColon (v : List Char) : Prop :=
  '#' ∈ v → ∃ front back, v = front ++ (ErrorCode.reference.code.toList ++ ':' :: back)

/-- What relocation has made of names. -/
structure Renamed (s : Shift) (names names' : List String) : Prop where
  /-- If no reference in them is lost, each is relocated by itself. -/
  eq_map : (∀ name ∈ names, '#' ∉ relocateName s name.toList) →
    names' = names.map (relocatedName s)
  /-- They have no more colons than before. -/
  colons_le : colons names' ≤ colons names
  /-- They have as many colons as before only if no reference in them is lost. -/
  kept : colons names ≤ colons names' → ∀ name ∈ names, '#' ∉ relocateName s name.toList

variable {s : Shift} {c x : Char} {cs u v w rest : List Char} {before : Option Char} {t : Token}
  {ts : List Token} {names names' others others' : List String} {name text : String} {e : Expr}

theorem calledNames_eq (text : String) : calledNames text = namesOf text.toList := by
  rw [calledNames, namesOf, tokensOf, List.flatMap_map]
  rfl

@[simp] theorem namesOf_nil : namesOf [] = [] := by
  rw [namesOf, tokensOf_nil, List.flatMap_nil]

theorem namesOf_cons_of_isBlank (blank : Text.isBlank c) (cs : List Char) :
    namesOf (c :: cs) = namesOf cs := by
  rw [namesOf, namesOf, tokensOf_cons_of_isBlank blank]

theorem Takes.namesOf_append (takes : Takes u rest t) :
    namesOf (u ++ rest) = t.names ++ namesOf rest := by
  have cuts := Cuts.token takes (cuts_tokensOf rest)
  rw [namesOf, cuts.tokensOf_eq, List.flatMap_cons, namesOf]

@[simp] theorem colons_append (names others : List String) :
    colons (names ++ others) = colons names + colons others := by
  simp [colons]

theorem colons_cons (name : String) (names : List String) :
    colons (name :: names) = name.toList.count ':' + colons names := by
  simp [colons]

@[simp] theorem colons_singleton (name : String) : colons [name] = name.toList.count ':' := by
  simp [colons]

theorem renamed_nil (s : Shift) : Renamed s [] [] := ⟨fun _ => rfl, le_rfl, by simp⟩

theorem Renamed.append (first : Renamed s names names') (second : Renamed s others others') :
    Renamed s (names ++ others) (names' ++ others') where
  eq_map kept := by
    obtain ⟨first_kept, second_kept⟩ := List.forall_mem_append.mp kept
    rw [first.eq_map first_kept, second.eq_map second_kept, List.map_append]
  colons_le := by
    rw [colons_append, colons_append]
    exact Nat.add_le_add first.colons_le second.colons_le
  kept enough := by
    have first_le := first.colons_le
    have second_le := second.colons_le
    rw [colons_append, colons_append] at enough
    exact List.forall_mem_append.mpr ⟨first.kept (by omega), second.kept (by omega)⟩

/-! ## Colons -/

theorem count_colon_map_toUpper (cs : List Char) :
    (cs.map Char.toUpper).count ':' = cs.count ':' := by
  induction cs with
  | nil => rfl
  | cons c cs ih =>
      rw [List.map_cons, List.count_cons, List.count_cons, ih, toUpper_beq (by decide)]

/-- A relocated reference has at most as many colons as before. -/
theorem count_colon_relocateReference_le (s : Shift) (u : List Char) :
    (relocateReference s u).count ':' ≤ u.count ':' := by
  have lost : ErrorCode.reference.code.toList.count ':' = 0 := by decide
  have no_colon (a : Address) : a.chars.count ':' = 0 :=
    List.count_eq_zero.mpr (looksLikeAddress_chars a).not_mem_colon
  unfold relocateReference
  split
  · rename_i colon
    split
    · exact le_rfl
    · split
      · omega
      · split
        · exact le_rfl
        · rw [toList_text, List.count_append, List.count_cons_self, no_colon, no_colon]
          exact List.count_pos_iff.mpr (List.contains_iff_mem.mp colon)
  · split
    · exact le_rfl
    · split
      · omega
      · split
        · exact le_rfl
        · rw [no_colon]
          exact Nat.zero_le _

theorem count_colon_relocatePlain_le (s : Shift) (before : Option Char) (cs : List Char) :
    (relocatePlain s before cs).count ':' ≤ cs.count ':' := by
  induction before, cs using relocatePlain_induction with
  | nil before => simp [relocatePlain]
  | plain before c rest nothing ih =>
      rw [relocatePlain, nothing]
      dsimp only
      rw [List.count_cons, List.count_cons]
      exact Nat.add_le_add_right ih _
  | reference before u rest some_chars found ih =>
      rw [relocatePlain_reference found some_chars, List.count_append, List.count_append]
      refine Nat.add_le_add ?_ ih
      split
      · exact le_rfl
      · exact count_colon_relocateReference_le s u

theorem count_colon_relocateName_le (s : Shift) (u : List Char) :
    (relocateName s u).count ':' ≤ u.count ':' := by
  have called := count_colon_relocatePlain_le s none (u ++ ['('])
  rw [List.count_append, show ['('].count ':' = 0 from rfl, Nat.add_zero] at called
  exact ((List.dropLast_sublist _).count_le ':').trans called

/-! ## Names that lose a reference -/

theorem isCode_relocateReference (code : ∀ c ∈ u, IsCode c) :
    ∀ c ∈ relocateReference s u, IsCode c := by
  rcases relocateReference_cases s u with lost | same | word
  · rw [lost]
    simp [IsCode, ErrorCode.code, continuesWord]
  · rwa [same]
  · exact fun c member => .inl (word.continues c member)

/-- A relocated reference that has the sign of an error in it is lost. -/
theorem relocateReference_of_mem_sign (plain : '#' ∉ u) (lost : '#' ∈ relocateReference s u) :
    relocateReference s u = ErrorCode.reference.code.toList := by
  rcases relocateReference_cases s u with code | same | word
  · exact code
  · exact absurd (same ▸ lost) plain
  · exact absurd (word.continues '#' lost) (by decide)

/-- In a name a reference is glued to what follows or ends at a colon. -/
theorem exists_colon_of_not_glued (continues : ∀ c ∈ cs, continuesWord c)
    (free : (cs ++ ['(']).head?.any gluesAfter = false)
    (relocated : relocatePlain s before (cs ++ ['(']) = v ++ ['(']) : ∃ back, v = ':' :: back := by
  cases cs with
  | nil => exact absurd free (by decide)
  | cons c cs =>
      have colon : c = ':' := by
        by_contra no_colon
        have part := isPart_of_continuesWord (continues c List.mem_cons_self) no_colon
        have glues : ((c :: cs ++ ['(']).head?.any gluesAfter) = true := gluesAfter_of_isPart part
        rw [glues] at free
        contradiction
      subst colon
      rw [List.cons_append,
        relocatePlain_cons (addressLength?_cons_eq_none (by decide) _)] at relocated
      cases v with
      | nil => exact absurd (List.cons.inj relocated).1 (by decide)
      | cons d back => exact ⟨back, by rw [(List.cons.inj relocated).1]⟩

theorem LosesAtColon.append (loses : LosesAtColon v) (plain : '#' ∉ w) :
    LosesAtColon (w ++ v) := by
  intro member
  obtain ⟨front, back, rfl⟩ := loses ((List.mem_append.mp member).resolve_left plain)
  exact ⟨w ++ front, back, (List.append_assoc ..).symm⟩

/-- Relocation puts the code for a lost reference into a name only in front of a colon. -/
theorem exists_losesAtColon (s : Shift) (before : Option Char)
    (continues : ∀ c ∈ u, continuesWord c) :
    ∃ v, relocatePlain s before (u ++ ['(']) = v ++ ['('] ∧ (∀ c ∈ v, IsCode c) ∧
      LosesAtColon v := by
  have stop : ¬ Address.IsPart '(' := by decide
  induction before, u using relocatePlain_induction with
  | nil before =>
      refine ⟨[], ?_, by simp, by simp [LosesAtColon]⟩
      rw [List.nil_append, relocatePlain_cons (addressLength?_cons_eq_none (by decide) _),
        relocatePlain]
  | plain before c u nothing ih =>
      obtain ⟨first, continues⟩ := List.forall_mem_cons.mp continues
      obtain ⟨v, relocated, code, loses⟩ := ih continues
      have plain : '#' ∉ [c] := by
        rw [List.mem_singleton]
        rintro rfl
        exact absurd first (by decide)
      refine ⟨[c] ++ v, ?_, List.forall_mem_cons.mpr ⟨.inl first, code⟩, loses.append plain⟩
      rw [List.cons_append, relocatePlain, ← List.cons_append,
        referenceLength?_append_cons stop (by decide), nothing]
      exact congrArg (c :: ·) relocated
  | reference before u rest some_chars found ih =>
      obtain ⟨first, continues⟩ := List.forall_mem_append.mp continues
      obtain ⟨v, relocated, code, loses⟩ := ih continues
      have plain : '#' ∉ u := fun member => absurd (first '#' member) (by decide)
      have first_code : ∀ c ∈ u, IsCode c := fun c member => .inl (first c member)
      have found' : referenceLength? (u ++ (rest ++ ['('])) = some u.length := by
        rw [← List.append_assoc, referenceLength?_append_cons stop (by decide), found]
      rw [List.append_assoc, relocatePlain_reference found' some_chars, relocated]
      by_cases glued : (before.any gluesBefore || (rest ++ ['(']).head?.any gluesAfter) = true
      · rw [if_pos glued]
        exact ⟨u ++ v, (List.append_assoc ..).symm, List.forall_mem_append.mpr ⟨first_code, code⟩,
          loses.append plain⟩
      · rw [if_neg glued]
        refine ⟨relocateReference s u ++ v, (List.append_assoc ..).symm,
          List.forall_mem_append.mpr ⟨isCode_relocateReference first_code, code⟩, ?_⟩
        by_cases lost : '#' ∈ relocateReference s u
        · rw [Bool.not_eq_true, Bool.or_eq_false_iff] at glued
          obtain ⟨back, rfl⟩ := exists_colon_of_not_glued continues glued.2 relocated
          rw [relocateReference_of_mem_sign plain lost]
          exact fun _ => ⟨[], back, rfl⟩
        · exact loses.append lost

/-! ## Reading what is left of a name -/

/-- The characters that are read as one token, when the rest follows them. It is the name of a call
only in front of a parenthesis, and then it has at most the colons of the characters. -/
structure Fragment (u rest : List Char) (t : Token) : Prop where
  /-- The characters make up the token. -/
  takes : Takes u rest t
  /-- The colons of a name are among the characters. -/
  colons_le : colons t.names ≤ u.count ':'
  /-- Names stand in front of parentheses. -/
  names_eq_nil : rest.head? ≠ some '(' → t.names = []

theorem fragment_of_no_names (takes : Takes u rest t) (nothing : t.names = []) :
    Fragment u rest t :=
  ⟨takes, by rw [nothing]; exact Nat.zero_le _, fun _ => nothing⟩

theorem IsCode.ne_point (code : IsCode c) : c ≠ '.' := by
  rintro rfl
  simp [IsCode, continuesWord] at code

theorem IsCode.ne_parenthesis (code : IsCode c) : c ≠ '(' := by
  rintro rfl
  simp [IsCode, continuesWord] at code

theorem fragment_word (starts : startsWord c) (continues : ∀ d ∈ w, continuesWord d)
    (stop : ∀ d ∈ rest.head?, ¬ continuesWord d) :
    Fragment (c :: w) rest (wordToken (c :: w) (rest.head? == some '(')) := by
  have takes : Takes (c :: w) rest (wordToken (c :: w) (rest.head? == some '(')) := by
    refine ⟨c, w, rfl, fun blank => Separates.not_startsWord (.inl blank) starts, ?_⟩
    rw [readToken_of_startsWord starts, readWord_append continues stop]
  rcases wordToken_cases (c :: w) (rest.head? == some '(') with
    ⟨called, token⟩ | ⟨_, _, token, _⟩ | ⟨_, _, token⟩ | ⟨_, _, token⟩
  · refine ⟨takes, ?_, fun not_called => absurd (by simpa using called) not_called⟩
    rw [token, Token.names, colons_singleton, String.toList_ofList, count_colon_map_toUpper]
  all_goals exact fragment_of_no_names takes (by rw [token]; rfl)

theorem fragment_digits (digit : c.isDigit) (digits : ∀ d ∈ w, d.isDigit)
    (stop : ∀ d ∈ rest.head?, ¬ d.isDigit ∧ d ≠ '.') :
    Fragment (c :: w) rest (.number (Double.ofPlaces (c :: w) [] 0)) := by
  have no_places : places rest = [] := places_eq_nil fun head => (stop '.' head).2 rfl
  refine fragment_of_no_names
    ⟨c, w, rfl, fun blank => Separates.not_isDigit (.inl blank) digit, ?_⟩ rfl
  rw [readToken_of_isDigit digit, readNumber_append digits fun d head => (stop d head).1,
    no_places]
  rfl

theorem startsWord_or_isDigit (continues : continuesWord c) (no_colon : c ≠ ':') :
    startsWord c ∨ c.isDigit := by
  rcases isPart_of_continuesWord continues no_colon with plain | rfl
  · rw [Char.isAlphanum, Bool.or_eq_true] at plain
    exact plain.imp_left fun letter => by rw [startsWord, letter, Bool.true_or]
  · exact .inl (by decide)

/-- The code of an error ends in front of the sign of another one and of a parenthesis. -/
theorem exists_fragment_sign (bound : x = '#' ∨ x = '(') (w rest : List Char) :
    ∃ u v t, '#' :: w = u ++ v ∧ Fragment u (v ++ x :: rest) t := by
  cases found : ErrorCode.spellings.find? fun p => beginsWith p.1 ('#' :: (w ++ x :: rest)) with
  | none =>
      refine ⟨['#'], w, .illegal '#', rfl, fragment_of_no_names ⟨'#', [], rfl, by decide, ?_⟩ rfl⟩
      change readError ('#' :: (w ++ x :: rest)) = _
      rw [readError, found]
      rfl
  | some p =>
      obtain ⟨spelling, code⟩ := p
      have listed := List.mem_of_find?_eq_some found
      have begins := List.find?_some found
      obtain ⟨tail, spelled, no_sign, no_parenthesis⟩ := exists_spelling_eq_cons listed
      rw [beginsWith_iff, spelled, List.map_cons, List.map_append, List.map_cons] at begins
      have within : tail <+: w.map Char.toUpper := by
        refine prefix_of_run (p := fun d => d ≠ x) ?_ ?_ (List.cons_prefix_cons.mp begins).2
        · rintro d member rfl
          rcases bound with rfl | rfl
          · exact no_sign member
          · exact no_parenthesis member
        · rintro d ⟨rfl⟩
          rcases bound with rfl | rfl <;> decide
      obtain ⟨more, same⟩ := within
      obtain ⟨u, v, rfl, capitals, _⟩ := List.map_eq_append_iff.mp same.symm
      refine ⟨'#' :: u, v, .error code, rfl, fragment_of_no_names (takes_error listed ?_ _) rfl⟩
      rw [List.map_cons, capitals, spelled]
      rfl

/-- A relocated name, from any place on, begins with a token that ends in front of the sign of an
error and of a parenthesis. -/
theorem exists_fragment (bound : x = '#' ∨ x = '(') (code : ∀ d ∈ c :: w, IsCode d)
    (rest : List Char) : ∃ u v t, c :: w = u ++ v ∧ Fragment u (v ++ x :: rest) t := by
  obtain ⟨first, code⟩ := List.forall_mem_cons.mp code
  by_cases starts : startsWord c
  · have stop : ∀ d ∈ (x :: rest).head?, ¬ continuesWord d := by
      rintro d ⟨rfl⟩
      rcases bound with rfl | rfl <;> decide
    obtain ⟨run, others, rfl, continues, stop⟩ := exists_run continuesWord w stop
    exact ⟨c :: run, others, _, rfl, fragment_word starts continues stop⟩
  by_cases digit : c.isDigit
  · have stop : ∀ d ∈ (x :: rest).head?, ¬ d.isDigit := by
      rintro d ⟨rfl⟩
      rcases bound with rfl | rfl <;> decide
    obtain ⟨run, others, rfl, digits, stop⟩ := exists_run Char.isDigit w stop
    refine ⟨c :: run, others, _, rfl, fragment_digits digit digits fun d head => ⟨stop d head, ?_⟩⟩
    cases others with
    | nil =>
        obtain rfl : x = d := Option.some.inj head
        rcases bound with rfl | rfl <;> decide
    | cons e others =>
        obtain rfl : e = d := Option.some.inj head
        exact (code e (by simp)).ne_point
  by_cases sign : c = '#'
  · subst sign
    exact exists_fragment_sign bound w rest
  · have other : c = ':' ∨ c = '!' := by
      rcases first with continues | same | same
      · by_contra no_colon
        have letter_or_digit :=
          startsWord_or_isDigit continues fun colon => no_colon (.inl colon)
        rcases letter_or_digit with first | first
        · exact starts first
        · exact digit first
      · exact absurd same sign
      · exact .inr same
    refine ⟨[c], w, .illegal c, rfl, fragment_of_no_names ⟨c, [], rfl, ?_, ?_⟩ rfl⟩
    · rcases other with rfl | rfl <;> decide
    · rcases other with rfl | rfl <;> rfl

/-- The names in a relocated name, read up to the sign of an error or to the parenthesis. -/
theorem exists_namesOf_append (bound : x = '#' ∨ x = '(') (code : ∀ c ∈ w, IsCode c)
    (rest : List Char) : ∃ names, namesOf (w ++ x :: rest) = names ++ namesOf (x :: rest) ∧
      colons names ≤ w.count ':' ∧ (x ≠ '(' → names = []) := by
  generalize size : w.length = n
  induction n using Nat.strongRecOn generalizing w with
  | ind n ih =>
      cases w with
      | nil => exact ⟨[], rfl, le_rfl, fun _ => rfl⟩
      | cons c w =>
          obtain ⟨u, v, t, same, fragment⟩ := exists_fragment bound code rest
          rw [same] at code size ⊢
          have shorter : v.length < n := by
            obtain ⟨d, u', rfl, _⟩ := fragment.takes
            rw [← size, List.length_append, List.length_cons]
            omega
          obtain ⟨_, code'⟩ := List.forall_mem_append.mp code
          obtain ⟨names, read, colons_le, none⟩ := ih v.length shorter code' rfl
          refine ⟨t.names ++ names, ?_, ?_, fun other => ?_⟩
          · rw [List.append_assoc, fragment.takes.namesOf_append, read, List.append_assoc]
          · rw [colons_append, List.count_append]
            exact Nat.add_le_add fragment.colons_le colons_le
          · rw [none other, List.append_nil]
            refine fragment.names_eq_nil ?_
            cases v with
            | nil => simpa using other
            | cons d v => simpa using (code' d List.mem_cons_self).ne_parenthesis

/-- What is left of a name that has lost a reference has fewer colons in its names. -/
theorem exists_namesOf_of_lost (continues : ∀ c ∈ u, continuesWord c)
    (lost : '#' ∈ relocateName s u) (rest : List Char) :
    ∃ names, namesOf (relocateName s u ++ '(' :: rest) =
      names ++ namesOf ('(' :: rest) ∧ colons names < u.count ':' := by
  obtain ⟨v, relocated, code, loses⟩ := exists_losesAtColon s none continues
  have same : relocateName s u = v := by
    rw [relocateName, relocated, List.dropLast_concat]
  have count_le := count_colon_relocateName_le s u
  rw [same] at lost count_le ⊢
  obtain ⟨front, back, rfl⟩ := loses lost
  obtain ⟨front_code, code⟩ := List.forall_mem_append.mp code
  obtain ⟨_, code⟩ := List.forall_mem_append.mp code
  obtain ⟨_, back_code⟩ := List.forall_mem_cons.mp code
  have lost_chars : ErrorCode.reference.code.toList = '#' :: ['R', 'E', 'F', '!'] := rfl
  have code_read : Takes ErrorCode.reference.code.toList (':' :: back ++ '(' :: rest)
      (.error .reference) := (spells_lost _).takes
  have colon_read : Takes [':'] (back ++ '(' :: rest) (.illegal ':') :=
    ⟨':', [], rfl, by decide, rfl⟩
  obtain ⟨_, front_read, _, none⟩ := exists_namesOf_append (.inl rfl) front_code
    (['R', 'E', 'F', '!'] ++ (':' :: back ++ '(' :: rest))
  obtain ⟨names, back_read, colons_le, _⟩ := exists_namesOf_append (.inr rfl) back_code rest
  refine ⟨names, ?_, ?_⟩
  · calc namesOf (front ++ (ErrorCode.reference.code.toList ++ ':' :: back) ++ '(' :: rest)
      _ = namesOf
          (front ++ (ErrorCode.reference.code.toList ++ (':' :: back ++ '(' :: rest))) := by
        rw [List.append_assoc, List.append_assoc]
      _ = namesOf (ErrorCode.reference.code.toList ++ (':' :: back ++ '(' :: rest)) := by
        rw [lost_chars, List.cons_append, front_read, none (by decide), List.nil_append]
      _ = namesOf ([':'] ++ (back ++ '(' :: rest)) := code_read.namesOf_append
      _ = namesOf (back ++ '(' :: rest) := colon_read.namesOf_append
      _ = names ++ namesOf ('(' :: rest) := back_read
  · rw [List.count_append, List.count_append, List.count_cons_self] at count_le
    omega

/-! ## Whole texts -/

theorem colons_map_relocatedName_le (s : Shift) (names : List String) :
    colons (names.map (relocatedName s)) ≤ colons names := by
  induction names with
  | nil => exact le_rfl
  | cons name names ih =>
      rw [List.map_cons, colons_cons, colons_cons, relocatedName, String.toList_ofList]
      exact Nat.add_le_add (count_colon_relocateName_le s name.toList) ih

theorem Token.names_rename (f : String → String) (t : Token) :
    (t.rename f).names = t.names.map f := by
  cases t <;> rfl

theorem Token.names_relocate (s : Shift) (t : Token) :
    (t.relocate s).names = t.names.map (relocatedName s) := by
  rw [Token.relocate_eq, names_rename, names_shift]

/-- What relocation does to the names of one token. -/
theorem Spells.renamed (spells : Spells rest u t) (sound : t.IsSound)
    (ends : ¬ t.isSymbol → EndsAt rest) (free : Free before (u ++ rest)) :
    ∃ names after, namesOf (relocateFrom s before (u ++ rest)) =
      names ++ namesOf (relocateFrom s after rest) ∧ Free after rest ∧
      Renamed s t.names names := by
  by_cases kept : ∀ name ∈ t.names, '#' ∉ relocateName s name.toList
  · obtain ⟨after, relocated, free_after, spells'⟩ := spells.relocates sound kept ends free
    have like : BeginsLike rest (relocateFrom s after rest) := beginsLike_relocateFrom rest
    have takes := (spells' _ like).takes
    refine ⟨(t.relocate s).names, after, by rw [relocated, takes.namesOf_append], free_after, ?_⟩
    rw [Token.names_relocate]
    exact ⟨fun _ => rfl, colons_map_relocatedName_le s t.names, fun _ => kept⟩
  · cases t with
    | function name =>
        obtain ⟨word, stop, called, rfl⟩ := spells.of_function
        have lost : '#' ∈ relocateName s u := by
          simpa [Token.names, relocateName_map_toUpper, Text.toUpper_eq_iff] using kept
        have head : (relocateFrom s (some '(') rest).head? = some '(' :=
          stop.head?_relocateFrom.trans called
        obtain ⟨others, begins⟩ := List.head?_eq_some_iff.mp head
        obtain ⟨names, read, fewer⟩ := exists_namesOf_of_lost word.continues lost others
        have colons_lt : colons names < colons [String.ofList (u.map Char.toUpper)] := by
          rwa [colons_singleton, String.toList_ofList, count_colon_map_toUpper]
        refine ⟨names, some '(', ?_, fun _ _ _ => stop, fun all => absurd all kept, colons_lt.le,
          fun enough => absurd colons_lt (Nat.not_lt.mpr enough)⟩
        rw [relocateFrom_called word called free, begins, read]
    | _ => simp [Token.names] at kept

/-- What relocation does to the names of a text. -/
theorem Cuts.renamed (cuts : Cuts cs ts) (sound : ∀ t ∈ ts, t.IsSound)
    (chain : ts.IsChain Derives.Adjacent) (free : Free before cs) :
    Renamed s (namesOf cs) (namesOf (relocateFrom s before cs)) := by
  induction cuts generalizing before with
  | nil => simpa [relocateFrom, relocatePlain, pieces] using renamed_nil s
  | @blank c cs ts blank _ ih =>
      have separates : Separates c := .inl blank
      rw [relocateFrom_cons separates.plain, namesOf_cons_of_isBlank blank,
        namesOf_cons_of_isBlank blank]
      refine ih sound chain ?_
      rintro b ⟨rfl⟩ glues
      exact absurd glues separates.not_gluesBefore
  | @token u rest t ts takes cuts ih =>
      obtain ⟨first_sound, sound⟩ := List.forall_mem_cons.mp sound
      have spells := takes.spells_of_isChain cuts first_sound chain
      obtain ⟨names, after, relocated, free_after, renamed⟩ :=
        spells.renamed (s := s) first_sound (cuts.endsAt_of_isChain chain) free
      rw [relocated, takes.namesOf_append]
      exact renamed.append (ih sound chain.tail free_after)

/-! ## Formulas -/

theorem isWord_of_mem_calledNames (accepted : parse text = .ok e)
    (member : name ∈ calledNames text) : IsWord name.toList := by
  obtain ⟨_, ts, cuts, standFor⟩ := parse_eq_ok_iff_means.mp accepted
  obtain ⟨sound, _, chain⟩ := standFor.tokens_formula
  rw [calledNames_eq, namesOf, cuts.tokensOf_eq] at member
  obtain ⟨t, listed, named⟩ := List.mem_flatMap.mp member
  obtain ⟨u, rest, spells⟩ := cuts.exists_spells sound chain t listed
  cases t with
  | function name' =>
      obtain rfl := List.mem_singleton.mp named
      obtain ⟨word, _, _, rfl⟩ := spells.of_function
      rw [String.toList_ofList]
      exact isWord_of_map_toUpper_eq word (by simp)
  | _ => simp [Token.names] at named

/-- A name in front of a parenthesis is relocated by itself. -/
theorem relocate_call (moves : s.delta ≠ 0) (word : IsWord name.toList) :
    relocate s (name ++ "(") = relocatedName s name ++ "(" := by
  have called : relocateFrom s none (name.toList ++ ['(']) = _ :=
    relocateFrom_called word rfl fun _ nothing => by contradiction
  have parenthesis : relocateFrom s (some '(') ['('] = ['('] := by
    rw [relocateFrom_cons (by decide)]
    simp [relocateFrom, relocatePlain, pieces]
  rw [relocate, if_neg moves, flatMap_pieces, String.toList_append,
    show "(".toList = ['('] from rfl, called, parenthesis, String.ofList_append, relocatedName]

theorem relocatedName_of_no_colon (word : IsWord name.toList) (plain : ':' ∉ name.toList) :
    relocatedName s name = name := by
  have part : ∀ c ∈ name.toList, Address.IsPart c := fun c member =>
    isPart_of_continuesWord (word.continues c member) fun colon => plain (colon ▸ member)
  rw [relocatedName, relocateName_of_isPart part, String.ofList_toList]

theorem not_mem_sign_of_fixed (word : IsWord name.toList) (fixed : relocatedName s name = name) :
    '#' ∉ relocateName s name.toList := by
  have same : relocateName s name.toList = name.toList := by
    rw [← String.toList_ofList (l := relocateName s name.toList)]
    exact congrArg String.toList fixed
  rw [same]
  exact fun member => absurd (word.continues '#' member) (by decide)

/-- The names are the same as before exactly if each of them is. -/
theorem Renamed.eq_iff (renamed : Renamed s names names')
    (words : ∀ name ∈ names, IsWord name.toList) :
    names' = names ↔ ∀ name ∈ names, relocatedName s name = name := by
  constructor
  · rintro rfl
    -- There are as many colons as before, so no reference is lost.
    have mapped := renamed.eq_map (renamed.kept le_rfl)
    refine List.map_inj_left.mp ?_
    rw [← mapped, List.map_id']
  · intro fixed
    rw [renamed.eq_map fun name member =>
      not_mem_sign_of_fixed (words name member) (fixed name member), List.map_congr_left fixed,
      List.map_id']

/-- What relocation does to the names of a formula. -/
theorem renamed_relocate (accepted : parse text = .ok e) (moves : s.delta ≠ 0) :
    Renamed s (calledNames text) (calledNames (relocate s text)) := by
  obtain ⟨_, ts, cuts, standFor⟩ := parse_eq_ok_iff_means.mp accepted
  obtain ⟨sound, _, chain⟩ := standFor.tokens_formula
  rw [calledNames_eq, calledNames_eq, relocate, if_neg moves, String.toList_ofList, flatMap_pieces]
  exact cuts.renamed sound chain fun _ nothing => by contradiction

/-- The names of the calls in a relocated formula are those of the formula exactly if relocation
changes none of them in front of a parenthesis. A name without colons is never changed. -/
theorem calledNames_relocate_iff (s : Shift) (accepted : parse text = .ok e) :
    (calledNames (relocate s text) = calledNames text ↔
      ∀ name ∈ calledNames text, relocate s (name ++ "(") = name ++ "(") ∧
    ∀ name ∈ calledNames text, ':' ∉ name.toList → relocate s (name ++ "(") = name ++ "(" := by
  by_cases still : s.delta = 0
  · simp [relocate, still]
  have words (name : String) (member : name ∈ calledNames text) : IsWord name.toList :=
    isWord_of_mem_calledNames accepted member
  have fixed_iff (name : String) (member : name ∈ calledNames text) :
      relocate s (name ++ "(") = name ++ "(" ↔ relocatedName s name = name := by
    rw [relocate_call still (words name member), String.append_left_inj]
  refine ⟨?_, fun name member plain => ?_⟩
  · rw [(renamed_relocate accepted still).eq_iff words]
    exact forall₂_congr fun name member => (fixed_iff name member).symm
  · exact (fixed_iff name member).mpr (relocatedName_of_no_colon (words name member) plain)

/-- A row is inserted behind the first one. The name with a colon in it holds a reference to the
first row, which stays where it is. -/
theorem calledNames_relocate_inserted_row :
    let s : Shift := ⟨.row, 1, 1⟩
    let text := "=C1:D(A1,sum(A2))"
    relocate s text = "=C1:D(A1,sum(A3))" ∧ calledNames text = ["C1:D", "SUM"] ∧
      calledNames (relocate s text) = calledNames text := by
  have accepted : parse "=C1:D(A1,sum(A2))" =
      .ok (.call "C1:D" [.cell ⟨0, 0, false, false⟩,
        .call "SUM" [.cell ⟨0, 1, false, false⟩]]) := by
    with_unfolding_all rfl
  have names : calledNames "=C1:D(A1,sum(A2))" = ["C1:D", "SUM"] := by decide +kernel
  have same := (calledNames_relocate_iff ⟨.row, 1, 1⟩ accepted).1.mpr
  rw [names] at same
  exact ⟨by decide +kernel, names, names ▸ same (by decide +kernel)⟩

/-- Relocation changes the name of a call if what looks like a reference in it moves. -/
theorem not_forall_calledNames_relocate :
    ¬ ∀ (text : String) (e : Expr) (axis : Axis) (pivot : UInt32) (delta : Int),
      parse text = .ok e → calledNames (relocate ⟨axis, pivot, delta⟩ text) =
        calledNames text := by
  intro same
  have accepted : parse "=A1:B(1)" =
      .ok (.call "A1:B" [.literal (.number (Double.ofPlaces ['1'] [] 0))]) := by
    with_unfolding_all rfl
  have names := same _ _ .row 0 1 accepted
  have changed : calledNames (relocate ⟨.row, 0, 1⟩ "=A1:B(1)") ≠ calledNames "=A1:B(1)" := by
    decide +kernel
  exact changed names

end Formula
end Spreadsheet
