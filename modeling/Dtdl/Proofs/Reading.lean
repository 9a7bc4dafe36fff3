import Dtdl.Json.Record
import Dtdl.Json.Writer

/-!
# Readers on what was written

What a reader makes of a text depends on the text alone: the place where it stands only shows in
failures.  So a reader is told by a relation between the text in front of it, its result and the
text that it leaves.  The relation is followed through strings, objects and records; each statement
says that a reader takes what the writer has put there, and leaves whatever comes behind.
-/

namespace Dtdl.Json

namespace Reader

variable {Result Next : Type}

/-- Wherever a text stands, a reader takes its result off the front of it and leaves the rest. -/
def Takes (reader : Reader Result) (text : List Char) (result : Result) (rest : List Char) :
    Prop :=
  ∀ position, ∃ behind, reader ⟨text, position⟩ = .ok (result, ⟨rest, behind⟩)

theorem takes_pure (result : Result) (text : List Char) :
    Takes (pure result) text result text :=
  fun position => ⟨position, rfl⟩

theorem Takes.bind {first : Reader Result} {next : Result → Reader Next}
    {text middle rest : List Char} {result : Result} {other : Next}
    (begins : Takes first text result middle) (goes : Takes (next result) middle other rest) :
    Takes (first >>= next) text other rest := by
  intro position
  obtain ⟨between, taken⟩ := begins position
  obtain ⟨behind, also⟩ := goes between
  refine ⟨behind, ?_⟩
  calc
    (first >>= next) ⟨text, position⟩ =
        first ⟨text, position⟩ >>= fun taken => next taken.1 taken.2 := rfl
    _ = next result ⟨middle, between⟩ := by rw [taken]; rfl
    _ = .ok (other, ⟨rest, behind⟩) := also

theorem takes_step (c : Char) (rest : List Char) : Takes step (c :: rest) () rest :=
  fun position => ⟨position.behind c, rfl⟩

theorem takes_next (c : Char) (rest : List Char) :
    Takes next? (c :: rest) (some c) (c :: rest) :=
  fun position => ⟨position, rfl⟩

theorem takes_nextSolid {c : Char} (solid : Cursor.isBlank c = false) (rest : List Char) :
    Takes nextSolid? (c :: rest) (some c) (c :: rest) := by
  intro position
  refine ⟨position, ?_⟩
  simp [nextSolid?, Cursor.skipBlanks, Cursor.skipBlanks.go, solid]

theorem document_of_takes {read : Nat → Reader Result} {text : String} {result : Result}
    (taken : Takes (read (text.length + 1)) text.toList result []) :
    document read text = .ok result := by
  obtain ⟨behind, done⟩ := taken .start
  rw [document]
  calc
    _ = (read (text.length + 1) ⟨text.toList, .start⟩ >>= fun taken => _).map Prod.fst := rfl
    _ = .ok result := by rw [done]; rfl

theorem takes_word (expected rest : List Char) :
    Takes (word expected) (expected ++ rest) () rest := by
  induction expected with
  | nil => exact takes_pure () rest
  | cons c others ih =>
      refine (takes_next c (others ++ rest)).bind ?_
      simp only [if_true]
      exact (takes_step c (others ++ rest)).bind ih

/-! ## Strings -/

theorem hexValue?_hexDigit : ∀ value < 16, Text.hexValue? (Writer.hexDigit value) = some value := by
  decide

theorem utf8Size_hexDigit : ∀ value < 16, (Writer.hexDigit value).utf8Size = 1 := by
  decide

theorem stringFrom_letter {letter c : Char} (stands : Escape.letter? letter = some c)
    (position : Position) (read rest : List Char) :
    ∃ behind, stringFrom .value .outside position read ('\\' :: letter :: rest) =
      stringFrom .value .outside behind (c :: read) rest := by
  have notCode : letter ≠ 'u' := by
    rintro rfl
    contradiction
  refine ⟨(position.behind '\\').behind letter, ?_⟩
  rw [stringFrom, if_neg (by decide), if_pos rfl, stringFrom, if_neg notCode, stands]

theorem stringFrom_digit {digit : Nat} (hex : digit < 16) {bytes : Nat} (more : bytes < 3)
    (value : Nat) (position : Position) (read rest : List Char) :
    stringFrom .value (.code none bytes value true) position read
        (Writer.hexDigit digit :: rest) =
      stringFrom .value (.code none (bytes + 1) (value * 16 + digit) true)
        (position.behind (Writer.hexDigit digit)) read rest := by
  have enough : bytes + 1 < 4 := by omega
  rw [stringFrom]
  simp only [hexValue?_hexDigit digit hex, utf8Size_hexDigit digit hex, enough, if_true,
    Option.getD_some, Option.isSome_some, Bool.and_true]

theorem stringFrom_lastDigit {c : Char} (control : c.toNat < 0x20) (position : Position)
    (read rest : List Char) :
    stringFrom .value (.code none 3 (c.toNat / 16) true) position read
        (Writer.hexDigit (c.toNat % 16) :: rest) =
      stringFrom .value .outside (position.behind (Writer.hexDigit (c.toNat % 16)))
        (c :: read) rest := by
  have hex : c.toNat % 16 < 16 := by omega
  have code : c.toNat / 16 * 16 + c.toNat % 16 = c.toNat := by omega
  have complete : Escape.complete .value none c.toNat = .ok (.outside, some c) := by
    have notLow : (0xDC00 ≤ c.toNat && c.toNat ≤ 0xDFFF) = false := by simp; omega
    have notHigh : (0xD800 ≤ c.toNat && c.toNat ≤ 0xDBFF) = false := by simp; omega
    rw [Escape.complete, notLow, notHigh, Char.ofNat_toNat]
    rfl
  rw [stringFrom]
  simp only [hexValue?_hexDigit _ hex, utf8Size_hexDigit _ hex, Option.getD_some,
    Option.isSome_some, Bool.and_true, code, complete]
  rfl

theorem stringFrom_code {c : Char} (control : c.toNat < 0x20) (position : Position)
    (read rest : List Char) :
    ∃ behind, stringFrom .value .outside position read
        (['\\', 'u', '0', '0', Writer.hexDigit (c.toNat / 16), Writer.hexDigit (c.toNat % 16)] ++
          rest) =
      stringFrom .value .outside behind (c :: read) rest := by
  have zero : '0' = Writer.hexDigit 0 := by decide
  rw [List.cons_append, List.cons_append, List.cons_append, List.cons_append, List.cons_append,
    List.cons_append, List.nil_append, stringFrom, if_neg (by decide), if_pos rfl, stringFrom,
    if_pos rfl, zero, stringFrom_digit (by omega) (by omega),
    stringFrom_digit (by omega) (by omega), stringFrom_digit (by omega) (by omega),
    Nat.zero_mul, Nat.zero_add, Nat.zero_add, stringFrom_lastDigit control]
  exact ⟨_, rfl⟩

/-- A character is written as a letter that stands for it, as its code, or as it is. -/
theorem escaped_cases (c : Char) :
    (∃ letter, Escape.letter? letter = some c ∧ Writer.escaped c = ['\\', letter]) ∨
    (c.toNat < 0x20 ∧ Writer.escaped c =
      ['\\', 'u', '0', '0', Writer.hexDigit (c.toNat / 16), Writer.hexDigit (c.toNat % 16)]) ∨
    (c ≠ '"' ∧ c ≠ '\\' ∧ ¬c.toNat < 0x20 ∧ Writer.escaped c = [c]) := by
  rw [Writer.escaped]
  iterate 7
    split
    · next same =>
        subst same
        exact .inl ⟨_, rfl, rfl⟩
  split
  · next control => exact .inr (.inl ⟨control, rfl⟩)
  · next notQuote notBackslash _ _ _ _ _ notControl =>
      exact .inr (.inr ⟨notQuote, notBackslash, notControl, rfl⟩)

theorem stringFrom_escaped (c : Char) (position : Position) (read rest : List Char) :
    ∃ behind, stringFrom .value .outside position read (Writer.escaped c ++ rest) =
      stringFrom .value .outside behind (c :: read) rest := by
  rcases escaped_cases c with ⟨letter, stands, written⟩ | ⟨control, written⟩ |
    ⟨notQuote, notBackslash, notControl, written⟩
  · rw [written]
    exact stringFrom_letter stands position read rest
  · rw [written]
    exact stringFrom_code control position read rest
  · refine ⟨position.behind c, ?_⟩
    rw [written, List.singleton_append, stringFrom, if_neg notQuote, if_neg notBackslash,
      if_neg notControl]

theorem stringFrom_characters (characters : List Char) (position : Position)
    (read rest : List Char) :
    ∃ behind, stringFrom .value .outside position read
        (characters.flatMap Writer.escaped ++ '"' :: rest) =
      .ok (read.reverse ++ characters, ⟨rest, behind⟩) := by
  induction characters generalizing position read with
  | nil => exact ⟨position.behind '"', by simp [stringFrom]⟩
  | cons c others ih =>
      obtain ⟨between, first⟩ := stringFrom_escaped c position read
        (others.flatMap Writer.escaped ++ '"' :: rest)
      obtain ⟨behind, done⟩ := ih between (c :: read)
      refine ⟨behind, ?_⟩
      rw [List.flatMap_cons, List.append_assoc, first, done, List.reverse_cons,
        List.append_assoc, List.singleton_append]

theorem takes_stringBody (text : String) (rest : List Char) :
    Takes (stringBody .value) (text.toList.flatMap Writer.escaped ++ '"' :: rest) text rest := by
  intro position
  obtain ⟨behind, read⟩ := stringFrom_characters text.toList position [] rest
  refine ⟨behind, ?_⟩
  rw [stringBody, read, List.reverse_nil, List.nil_append]
  exact congrArg (fun text => Except.ok (text, _)) String.ofList_toList

theorem quoted_append (text : String) (rest : List Char) :
    Writer.quoted text ++ rest =
      '"' :: (text.toList.flatMap Writer.escaped ++ '"' :: rest) := by
  simp [Writer.quoted]

theorem takes_string (text : String) (rest : List Char) :
    Takes string (Writer.quoted text ++ rest) text rest := by
  rw [quoted_append]
  exact (takes_nextSolid rfl _).bind ((takes_step _ _).bind (takes_stringBody text rest))

theorem takes_name (text : String) (rest : List Char) :
    Takes name (Writer.quoted text ++ rest) text rest := by
  rw [quoted_append]
  exact (takes_step _ _).bind (takes_stringBody text rest)

theorem takes_colon (rest : List Char) : Takes colon (':' :: rest) () rest :=
  (takes_nextSolid rfl rest).bind (takes_step ':' rest)

theorem takes_optional_string (text : Option String) (rest : List Char) :
    Takes (optional string) (Writer.compact (text.elim .null .string) ++ rest) text rest := by
  cases text with
  | none =>
      exact (takes_nextSolid rfl _).bind ((takes_step 'n' _).bind
        ((takes_word ['u', 'l', 'l'] rest).bind (takes_pure none rest)))
  | some text =>
      have read := takes_string text rest
      rw [Option.elim_some, Writer.compact]
      rw [quoted_append] at read ⊢
      exact (takes_nextSolid rfl _).bind (read.bind (takes_pure (some text) rest))

end Reader

/-! ## Containers -/

namespace Writer

/-- The parts of a container with a comma in front of each, except for the first one. -/
def separated : (isFirst : Bool) → List (List Char) → List Char
  | _, [] => []
  | true, part :: rest => part ++ separated false rest
  | false, part :: rest => ',' :: part ++ separated false rest

/-- A member whose value is already written. -/
def member (name : String) (written : List Char) : List Char := quoted name ++ ':' :: written

theorem compactMembers_eq (members : List (String × Value)) :
    compactMembers members =
      separated true (members.map fun entry => member entry.1 (compact entry.2)) := by
  induction members with
  | nil => rfl
  | cons entry rest ih =>
      cases rest with
      | nil => simp [compactMembers, separated, member]
      | cons other rest =>
          rw [compactMembers, ih]
          simp [separated, member]

theorem compactItems_eq (items : List Value) :
    compactItems items = separated true (items.map compact) := by
  induction items with
  | nil => rfl
  | cons item rest ih =>
      cases rest with
      | nil => simp [compactItems, separated]
      | cons other rest =>
          rw [compactItems, ih]
          simp [separated]

theorem length_member_pos (name : String) (written : List Char) :
    0 < (member name written).length := by
  rw [member, List.length_append, List.length_cons]
  omega

theorem length_le_separated (isFirst : Bool) {parts : List (List Char)}
    (filled : ∀ part ∈ parts, 0 < part.length) :
    parts.length ≤ (separated isFirst parts).length := by
  induction parts generalizing isFirst with
  | nil => exact Nat.zero_le _
  | cons part rest ih =>
      have first := filled part List.mem_cons_self
      have behind := ih false fun other listed => filled other (List.mem_cons_of_mem part listed)
      cases isFirst <;>
        simp only [separated, List.length_cons, List.length_append] <;> omega

theorem length_part_le_separated (isFirst : Bool) {parts : List (List Char)} {part : List Char}
    (listed : part ∈ parts) : part.length ≤ (separated isFirst parts).length := by
  induction parts generalizing isFirst with
  | nil => simp at listed
  | cons first rest ih =>
      rcases List.mem_cons.mp listed with same | behind
      · cases isFirst <;>
          simp only [same, separated, List.length_cons, List.length_append] <;> omega
      · have later := ih false behind
        cases isFirst <;>
          simp only [separated, List.length_cons, List.length_append] <;> omega

theorem compact_object (members : List (String × Value)) :
    compact (.object members) =
      '\x7b' :: separated true (members.map fun entry => member entry.1 (compact entry.2)) ++
        ['\x7d'] := by
  rw [compact, compactMembers_eq]

theorem compact_array (items : List Value) :
    compact (.array items) = '[' :: separated true (items.map compact) ++ [']'] := by
  rw [compact, compactItems_eq]

theorem length_le_compact_object (members : List (String × Value)) :
    members.length ≤ (compact (.object members)).length := by
  have filled : ∀ part ∈ members.map fun entry => member entry.1 (compact entry.2),
      0 < part.length := by
    intro part listed
    obtain ⟨entry, -, rfl⟩ := List.mem_map.mp listed
    exact length_member_pos entry.1 (compact entry.2)
  have counted := length_le_separated true filled
  rw [List.length_map] at counted
  rw [compact_object, List.length_append, List.length_cons]
  omega

end Writer

namespace Reader

open Writer (separated)

theorem takes_hasMember (isFirst : Bool) (name : String) (written : List Char)
    (parts : List (List Char)) (rest : List Char) :
    Takes (hasMember isFirst) (separated isFirst (Writer.member name written :: parts) ++ rest)
      true (Writer.quoted name ++ ':' :: (written ++ (separated false parts ++ rest))) := by
  cases isFirst with
  | true =>
      simp only [separated, Writer.member, List.append_assoc, List.cons_append, quoted_append]
      exact (takes_nextSolid rfl _).bind (takes_pure true _)
  | false =>
      simp only [separated, Writer.member, List.append_assoc, List.cons_append, quoted_append]
      exact (takes_nextSolid rfl _).bind ((takes_step ',' _).bind
        ((takes_nextSolid rfl _).bind (takes_pure true _)))

theorem takes_hasMember_end (isFirst : Bool) (rest : List Char) :
    Takes (hasMember isFirst) ('\x7d' :: rest) false ('\x7d' :: rest) :=
  (takes_nextSolid rfl rest).bind (takes_pure false _)

theorem takes_hasItem (isFirst : Bool) {c : Char} (solid : Cursor.isBlank c = false)
    (inner : c ≠ ']') (written : List Char) (parts : List (List Char)) (rest : List Char) :
    Takes (hasItem isFirst) (separated isFirst ((c :: written) :: parts) ++ rest) true
      (c :: written ++ (separated false parts ++ rest)) := by
  have text : (c :: written) ++ separated false parts ++ rest =
      c :: (written ++ (separated false parts ++ rest)) := by
    simp
  cases isFirst with
  | true =>
      rw [separated, text]
      refine (takes_nextSolid solid _).bind ?_
      simp only [inner, if_false, if_true]
      exact takes_pure true _
  | false =>
      rw [separated, List.cons_append, List.cons_append, text]
      refine (takes_nextSolid rfl _).bind ((takes_step ',' _).bind ?_)
      refine (takes_nextSolid solid _).bind ?_
      split
      · contradiction
      · next same => exact absurd (Option.some.inj same) inner
      · exact takes_pure true _

theorem takes_closeObject (rest : List Char) : Takes closeObject ('\x7d' :: rest) () rest :=
  (takes_nextSolid rfl rest).bind (takes_step '\x7d' rest)

theorem takes_closeArray (rest : List Char) : Takes closeArray (']' :: rest) () rest :=
  (takes_nextSolid rfl rest).bind (takes_step ']' rest)

theorem takes_members {fuel : Nat} {entries : List (String × String)}
    (enough : entries.length ≤ fuel) {known : List (String × String)}
    (distinct : ((known ++ entries).map Prod.fst).Nodup) (isFirst : Bool) (rest : List Char) :
    Takes (members string fuel isFirst known)
      (separated isFirst (entries.map fun entry =>
        Writer.member entry.1 (Writer.quoted entry.2)) ++ '\x7d' :: rest)
      (known ++ entries) ('\x7d' :: rest) := by
  induction entries generalizing fuel known isFirst with
  | nil =>
      rw [List.append_nil]
      cases fuel with
      | zero => exact takes_pure known _
      | succ fuel => exact (takes_hasMember_end isFirst rest).bind (takes_pure known _)
  | cons entry others ih =>
      cases fuel with
      | zero => contradiction
      | succ fuel =>
          obtain ⟨name, text⟩ := entry
          have absent : name ∉ Entries.names known := by
            rw [List.map_append, List.nodup_append] at distinct
            intro also
            exact distinct.2.2 name also name (by simp) rfl
          have regrouped :
              known ++ (name, text) :: others = (known ++ [(name, text)]) ++ others := by
            simp
          rw [regrouped] at distinct ⊢
          have behind := ih (Nat.le_of_succ_le_succ enough) distinct false
          rw [← Entries.put_of_not_mem text absent] at behind ⊢
          exact (takes_hasMember isFirst name _ _ _).bind ((takes_name name _).bind
            ((takes_colon _).bind ((takes_string text _).bind behind)))

/-! ## Records -/

section Records

variable {Draft : Type} {fields : List (Field Draft)} {draft next final : Draft}

/-- Members fill a draft if each of them is that of a field that has not been read, and what is
written of its value is read into the draft that the next one is read into. -/
inductive Fills (fields : List (Field Draft)) : Draft → List (List Char) → Draft → Prop
  | nil {draft : Draft} : Fills fields draft [] draft
  | cons {name : String} {field : Field Draft} {draft next final : Draft} {written : List Char}
      {parts : List (List Char)}
      (known : fields.find? (·.name = name) = some field)
      (unread : field.isRead draft = false)
      (reads : ∀ rest, Takes (field.read draft) (written ++ rest) next rest)
      (others : Fills fields next parts final) :
      Fills fields draft (Writer.member name written :: parts) final

theorem Fills.append {parts more : List (List Char)} (first : Fills fields draft parts next)
    (others : Fills fields next more final) : Fills fields draft (parts ++ more) final := by
  induction first with
  | nil => exact others
  | cons known unread reads _ ih => exact .cons known unread reads (ih others)

theorem takes_fieldsByName {parts : List (List Char)} (fills : Fills fields draft parts final)
    {fuel : Nat} (enough : parts.length ≤ fuel) (bound : Nat) (isFirst : Bool)
    (rest : List Char) :
    Takes (fieldsByName fields fuel bound isFirst draft)
      (separated isFirst parts ++ '\x7d' :: rest) final ('\x7d' :: rest) := by
  induction fills generalizing fuel isFirst with
  | @nil draft =>
      cases fuel with
      | zero => exact takes_pure draft _
      | succ fuel => exact (takes_hasMember_end isFirst rest).bind (takes_pure draft _)
  | @cons name field draft next final written parts known unread reads others ih =>
      cases fuel with
      | zero => contradiction
      | succ fuel =>
          have behind := ih (Nat.le_of_succ_le_succ enough) false
          refine (takes_hasMember isFirst name written parts _).bind ?_
          simp only [if_true]
          refine (takes_name name _).bind ?_
          simp only [known, unread, Bool.false_eq_true, if_false]
          exact (takes_colon _).bind ((reads _).bind behind)

theorem takes_record_object {parts : List (List Char)} {initial : Draft} {kind : String}
    {fuel depth : Nat} (fills : Fills fields initial parts final)
    (complete : (fields.find? fun field => !field.isOptional && !field.isRead final) = none)
    (enough : parts.length ≤ fuel) (deep : 1 < depth) (rest : List Char) :
    Takes (record kind fields initial fuel depth)
      ('\x7b' :: separated true parts ++ '\x7d' :: rest) final rest := by
  refine (takes_nextSolid rfl _).bind ?_
  simp only [Nat.not_le.mpr deep, if_false]
  refine (takes_step _ _).bind ((takes_fieldsByName fills enough fuel true rest).bind ?_)
  simp only [complete]
  exact (takes_closeObject rest).bind (takes_pure final rest)

/-- Items fill a draft if there is one for each field. -/
inductive FillsInOrder : List (Field Draft) → Draft → List (List Char) → Draft → Prop
  | nil {draft : Draft} : FillsInOrder [] draft [] draft
  | cons {field : Field Draft} {fields : List (Field Draft)} {draft next final : Draft}
      {c : Char} {written : List Char} {parts : List (List Char)}
      (solid : Cursor.isBlank c = false) (inner : c ≠ ']')
      (reads : ∀ rest, Takes (field.read draft) (c :: written ++ rest) next rest)
      (others : FillsInOrder fields next parts final) :
      FillsInOrder (field :: fields) draft ((c :: written) :: parts) final

theorem takes_fieldsInOrder {parts : List (List Char)}
    (fills : FillsInOrder fields draft parts final) (expected : String) (isFirst : Bool)
    (count : Nat) (rest : List Char) :
    Takes (fieldsInOrder expected isFirst count fields draft)
      (separated isFirst parts ++ rest) final rest := by
  induction fills generalizing isFirst count with
  | @nil draft =>
      have nothing : separated isFirst [] ++ rest = rest := by cases isFirst <;> rfl
      rw [nothing]
      exact takes_pure draft rest
  | cons solid inner reads others ih =>
      refine (takes_hasItem isFirst solid inner _ _ rest).bind ?_
      simp only [if_true]
      exact (reads _).bind (ih false (count + 1))

theorem takes_record_array {parts : List (List Char)} {initial : Draft} {kind : String}
    {fuel depth : Nat} (fills : FillsInOrder fields initial parts final) (deep : 1 < depth)
    (rest : List Char) :
    Takes (record kind fields initial fuel depth)
      ('[' :: separated true parts ++ ']' :: rest) final rest := by
  refine (takes_nextSolid rfl _).bind ?_
  simp only [Nat.not_le.mpr deep, if_false]
  exact (takes_step _ _).bind ((takes_fieldsInOrder fills _ true 0 _).bind
    ((takes_closeArray rest).bind (takes_pure final rest)))

end Records

theorem takes_stringMap {fuel depth : Nat} {entries : List (String × String)}
    (enough : entries.length ≤ fuel) (deep : 1 < depth)
    (distinct : (entries.map Prod.fst).Nodup) (rest : List Char) :
    Takes (stringMap fuel depth)
      (Writer.compact (.object (entries.map fun entry => (entry.1, .string entry.2))) ++ rest)
      entries rest := by
  have apart : (([] ++ entries).map Prod.fst).Nodup := distinct
  have members := takes_members enough apart true rest
  rw [Writer.compact_object, List.map_map, List.append_assoc]
  refine (takes_nextSolid rfl _).bind ?_
  simp only [Nat.not_le.mpr deep, if_false]
  exact (takes_step _ _).bind (members.bind ((takes_closeObject rest).bind
    (takes_pure entries rest)))

end Reader

end Dtdl.Json
