import HeaderBindings.Proofs.TreeGrowth
import HeaderBindings.Schema.File
import Mathlib.Tactic.IntervalCases

/-!
# Schemas are read back as they were written

The schema of a class determines the class: what is written for an interface is
read as the same interface, whatever characters its texts are made of.

**Method.**  `Reads reader json value` says that a reader finds a value where the
text of some data stands, at every level of nesting, behind every gap and before
every text.  It is proved for each kind of data from its parts: texts character by
character, lists item by item, and tables field by field (`Fills`).

**Results.**
* `stringBody_escape`: an escaped character is read as itself.
* `reads_list`, `reads_record`: lists and tables are read from their parts.
* `schema_round_trip`: a schema, as text or in a file, is read as what was written.
-/

namespace HeaderBindings
namespace Reader

open Json

section Characters

theorem hexValue?_hexDigit {value : Nat} (h : value < 16) :
    hexValue? (hexDigit value) = some value := by
  interval_cases value <;> decide

/-- The escape of a control character by its number is read as that number. -/
theorem codeUnit_hexDigits {number : Nat} (h : number < 256) (rest : List Char) :
    codeUnit ('0' :: '0' :: hexDigit (number / 16) :: hexDigit (number % 16) :: rest) =
      .ok (number, rest) := by
  have hhigh : hexValue? (hexDigit (number / 16)) = some (number / 16) :=
    hexValue?_hexDigit (by omega)
  have hlow : hexValue? (hexDigit (number % 16)) = some (number % 16) :=
    hexValue?_hexDigit (Nat.mod_lt _ (by omega))
  have hzero : hexValue? '0' = some 0 := by decide
  have hbytes : ¬bytesOfFour
      ('0' :: '0' :: hexDigit (number / 16) :: hexDigit (number % 16) :: rest) < 4 := by
    have h1 := Char.utf8Size_pos (hexDigit (number / 16))
    have h2 := Char.utf8Size_pos (hexDigit (number % 16))
    have h3 := Char.utf8Size_pos '0'
    simp only [bytesOfFour, List.take, List.foldr_cons, List.foldr_nil]
    omega
  have hsum : 4096 * 0 + 256 * 0 + 16 * (number / 16) + number % 16 = number := by omega
  simp only [codeUnit, hbytes, ↓reduceIte, hzero, hhigh, hlow, hsum]

/-- An escape inside a text stands for its character. -/
theorem stringBody_escaped {text rest : List Char} {value : Char}
    (h : escaped text = .ok (value, rest)) :
    stringBody ('\\' :: text) =
      (stringBody rest).map fun (values, left) => (value :: values, left) := by
  rw [stringBody]
  simp only [Char.reduceEq, ↓reduceIte]
  split
  · next fault hfault =>
      rw [h] at hfault
      simp at hfault
  · next found after hfound =>
      rw [h] at hfound
      obtain ⟨rfl, rfl⟩ := Prod.mk.inj (Except.ok.inj hfound)
      cases stringBody rest <;> rfl

theorem stringBody_letter {letter value : Char} (h : letterEscape? letter = some value)
    (rest : List Char) :
    stringBody ('\\' :: letter :: rest) =
      (stringBody rest).map fun (values, left) => (value :: values, left) := by
  refine stringBody_escaped ?_
  simp [escaped, h]

/-- A control character is read from the escape by its number. -/
theorem stringBody_control {c : Char} (h : c.toNat < 0x20) (rest : List Char) :
    stringBody
        ('\\' :: 'u' :: '0' :: '0' :: hexDigit (c.toNat / 16) :: hexDigit (c.toNat % 16) ::
          rest) =
      (stringBody rest).map fun (values, left) => (c :: values, left) := by
  refine stringBody_escaped ?_
  have hunit := codeUnit_hexDigits (show c.toNat < 256 by omega) rest
  have htrailing : isTrailing c.toNat = false := by
    simp only [isTrailing, Bool.and_eq_false_iff, decide_eq_false_iff_not]
    omega
  have hleading : isLeading c.toNat = false := by
    simp only [isLeading, Bool.and_eq_false_iff, decide_eq_false_iff_not]
    omega
  have hnone : letterEscape? 'u' = none := rfl
  simp [escaped, hnone, unicodeEscape, hunit, htrailing, hleading, Char.ofNat_toNat]

/-- An escaped character is read as itself. -/
theorem stringBody_escape (c : Char) (rest : List Char) :
    stringBody (escape c ++ rest) =
      (stringBody rest).map fun (values, left) => (c :: values, left) := by
  unfold escape
  split_ifs with hquote hback hbell hfeed hline hreturn htab hcontrol
  · subst hquote
    exact stringBody_letter rfl rest
  · subst hback
    exact stringBody_letter rfl rest
  · subst hbell
    exact stringBody_letter rfl rest
  · subst hfeed
    exact stringBody_letter rfl rest
  · subst hline
    exact stringBody_letter rfl rest
  · subst hreturn
    exact stringBody_letter rfl rest
  · subst htab
    exact stringBody_letter rfl rest
  · exact stringBody_control hcontrol rest
  · rw [List.singleton_append, stringBody]
    simp only [hquote, hback, hcontrol, ↓reduceIte]
    cases stringBody rest <;> rfl

/-- A quoted text is read up to its last quote. -/
theorem stringBody_quote (value rest : List Char) :
    stringBody (value.flatMap escape ++ '"' :: rest) = .ok (value, rest) := by
  induction value with
  | nil =>
      rw [List.flatMap_nil, List.nil_append, stringBody]
      simp
  | cons c value ih =>
      rw [List.flatMap_cons, List.append_assoc, stringBody_escape, ih]
      rfl

end Characters

section Gaps

/-- Whether a text is nothing but a gap. -/
def IsGap (gap : List Char) : Prop := ∀ c ∈ gap, isGap c = true

theorem isGap_nil : IsGap [] := by
  simp [IsGap]

theorem isGap_blank : IsGap [' '] := by
  simp [IsGap, isGap]

theorem isGap_newline (level : Nat) : IsGap (newline level) := by
  intro c hc
  rcases List.mem_cons.1 hc with rfl | hblank
  · rfl
  · rw [List.eq_of_mem_replicate hblank]
    rfl

/-- A gap is passed over up to the first character that is not in it. -/
theorem skipGap_append {gap : List Char} (hgap : IsGap gap) {c : Char} (hc : isGap c = false)
    (rest : List Char) : skipGap (gap ++ c :: rest) = c :: rest := by
  unfold skipGap
  rw [List.dropWhile_append_of_pos hgap]
  simp [hc]

end Gaps

section Data

variable {α σ : Type}

/-- Whether a reader finds a value where the text of some data stands. -/
def Reads (reader : Reader α) (json : Json) (value : α) : Prop :=
  ∀ level gap rest, IsGap gap →
    reader.run (gap ++ renderAt level json ++ rest) = .ok (value, rest)

theorem readText_quote (value : String) {gap : List Char} (hgap : IsGap gap)
    (rest : List Char) : readText (gap ++ quote value ++ rest) = .ok (value, rest) := by
  have hstart : gap ++ quote value ++ rest =
      gap ++ '"' :: (value.toList.flatMap escape ++ '"' :: rest) := by
    simp [quote]
  unfold readText
  rw [hstart, skipGap_append hgap rfl]
  simp [stringBody_quote, Except.map]

theorem reads_text (value : String) : Reads text (.text value) value := by
  intro level gap rest hgap
  rw [renderAt]
  exact readText_quote value hgap rest

/-- A choice is read from its name. -/
theorem reads_choice {choose : String → Option α} {name : String} {value : α}
    (h : choose name = some value) : Reads (choice choose) (.text name) value := by
  intro level gap rest hgap
  rw [renderAt]
  have hstart : gap ++ quote name ++ rest =
      gap ++ '"' :: (name.toList.flatMap escape ++ '"' :: rest) := by
    simp [quote]
  have htext : readText ('"' :: (name.toList.flatMap escape ++ '"' :: rest)) =
      .ok (name, rest) := by
    simpa [quote] using readText_quote name isGap_nil rest
  change readChoice choose (gap ++ quote name ++ rest) = _
  unfold readChoice
  rw [hstart, skipGap_append hgap rfl]
  simp [readVariant, htext, h]

/-- The text of data begins with a character that neither ends a list nor stands in a gap. -/
theorem exists_renderAt_eq_cons (level : Nat) (json : Json) :
    ∃ c more, renderAt level json = c :: more ∧ isGap c = false ∧ c ≠ ']' := by
  cases json with
  | text value =>
      rw [renderAt]
      exact ⟨'"', _, rfl, rfl, by decide⟩
  | list items =>
      cases items <;> rw [renderAt] <;> exact ⟨'[', _, rfl, rfl, by decide⟩
  | table fields =>
      cases fields <;> rw [renderAt] <;> exact ⟨'\x7b', _, rfl, rfl, by decide⟩

theorem nextItem_first {gap : List Char} (hgap : IsGap gap) (level : Nat) (json : Json)
    (rest : List Char) :
    nextItem true (gap ++ renderAt level json ++ rest) =
      .ok (some (renderAt level json ++ rest)) := by
  obtain ⟨c, more, hrender, hc, hend⟩ := exists_renderAt_eq_cons level json
  unfold nextItem
  rw [List.append_assoc, hrender, List.cons_append, skipGap_append hgap hc]
  simp [hend]

theorem nextItem_comma {gap : List Char} (hgap : IsGap gap) (level : Nat) (json : Json)
    (rest : List Char) :
    nextItem false (',' :: gap ++ renderAt level json ++ rest) =
      .ok (some (renderAt level json ++ rest)) := by
  obtain ⟨c, more, hrender, hc, hend⟩ := exists_renderAt_eq_cons level json
  have hcomma := skipGap_append isGap_nil (show isGap ',' = false from rfl)
    (gap ++ c :: (more ++ rest))
  have hskip := skipGap_append hgap hc (more ++ rest)
  simp_all [nextItem]

theorem readItems_end (item : Reader α) (isFirst : Bool) {gap : List Char} (hgap : IsGap gap)
    (rest : List Char) : readItems item isFirst (gap ++ ']' :: rest) = .ok ([], rest) := by
  have hskip : skipGap (gap ++ ']' :: rest) = ']' :: rest := skipGap_append hgap rfl rest
  have hnext : nextItem isFirst (gap ++ ']' :: rest) = .ok none := by
    simp [nextItem, hskip]
  rw [readItems]
  split
  · next hfault => simp [hnext] at hfault
  · simp [endOfItems, hskip, Except.map]
  · next hsome => simp [hnext] at hsome

/-- The items of a list are its next item and the items after it. -/
theorem readItems_next {item : Reader α} {isFirst : Bool} {text start rest left : List Char}
    {value : α} {values : List α} (hnext : nextItem isFirst text = .ok (some start))
    (hitem : item.run start = .ok (value, rest))
    (hmore : readItems item false rest = .ok (values, left)) :
    readItems item isFirst text = .ok (value :: values, left) := by
  rw [readItems]
  split
  · next hfault => simp [hnext] at hfault
  · next hnone => simp [hnext] at hnone
  · next found hsome =>
      rw [hnext] at hsome
      obtain rfl := Option.some.inj (Except.ok.inj hsome)
      split
      · next hfault => simp [hitem] at hfault
      · next hread =>
          rw [hitem] at hread
          obtain ⟨rfl, rfl⟩ := Prod.mk.inj (Except.ok.inj hread)
          rw [hmore]
          rfl

variable {item : Reader α} {toJson : α → Json}

/-- The items of a list after its first one are read one by one. -/
theorem readItems_renderItems (hitem : ∀ value, Reads item (toJson value) value)
    (level : Nat) {gap : List Char} (hgap : IsGap gap) (values : List α) (rest : List Char) :
    readItems item false
        (renderItems level (values.map toJson) ++ (gap ++ ']' :: rest)) =
      .ok (values, rest) := by
  induction values with
  | nil =>
      rw [List.map_nil, renderItems, List.nil_append]
      exact readItems_end item false hgap rest
  | cons value values ih =>
      rw [List.map_cons, renderItems, List.append_assoc]
      refine readItems_next (nextItem_comma (isGap_newline level) level (toJson value) _) ?_ ih
      exact hitem value level [] _ isGap_nil

/-- A list is read from its items. -/
theorem reads_list (hitem : ∀ value, Reads item (toJson value) value) (values : List α) :
    Reads (list item) (.list (values.map toJson)) values := by
  intro level gap rest hgap
  change readList item _ = _
  unfold readList
  cases values with
  | nil =>
      rw [List.map_nil, renderAt, List.append_assoc]
      rw [show ['[', ']'] ++ rest = '[' :: ([] ++ ']' :: rest) from rfl, skipGap_append hgap rfl]
      exact readItems_end item true isGap_nil rest
  | cons value values =>
      rw [List.map_cons, renderAt]
      have htext : gap ++ ('[' :: newline (level + 1) ++ renderAt (level + 1) (toJson value) ++
            renderItems (level + 1) (values.map toJson) ++ newline level ++ [']']) ++ rest =
          gap ++ '[' :: (newline (level + 1) ++ renderAt (level + 1) (toJson value) ++
            (renderItems (level + 1) (values.map toJson) ++ (newline level ++ ']' :: rest))) := by
        simp
      rw [htext, skipGap_append hgap rfl]
      refine readItems_next (nextItem_first (isGap_newline _) _ _ _) ?_
        (readItems_renderItems hitem (level + 1) (isGap_newline level) values rest)
      exact hitem value (level + 1) [] _ isGap_nil

end Data

section Tables

variable {σ α : Type} {fields : List (RecordField σ)}

/-- Whether the fields of a table take the state of a record that is being read to another one. -/
inductive Fills (fields : List (RecordField σ)) : σ → List (String × Json) → σ → Prop
  | done {state : σ} : Fills fields state [] state
  | next {state final : σ} {name : String} {json : Json} {table : List (String × Json)}
      {field : RecordField σ} {change : σ → σ} :
      fields.find? (fun field => field.name = name) = some field →
      field.isSet state = false →
      Reads field.read json change →
      Fills fields (change state) table final →
      Fills fields state ((name, json) :: table) final

theorem reads_fieldOf {name : String} {isSet : σ → Bool} {reader : Reader α} {json : Json}
    {value : α} {put : α → σ → σ} (h : Reads reader json value) :
    Reads (fieldOf name isSet reader put).read json (put value) := by
  intro level gap rest hgap
  simp only [fieldOf, h level gap rest hgap, Except.map]

theorem readFields_end (isFirst : Bool) (state : σ) {gap : List Char} (hgap : IsGap gap)
    (rest : List Char) :
    readFields fields isFirst state (gap ++ '\x7d' :: rest) = .ok (state, rest) := by
  have hskip : skipGap (gap ++ '\x7d' :: rest) = '\x7d' :: rest :=
    skipGap_append hgap rfl rest
  have hnext : nextField isFirst (gap ++ '\x7d' :: rest) = .ok none := by
    simp [nextField, hskip]
  rw [readFields]
  split
  · next hfault => simp [hnext] at hfault
  · simp [hskip]
  · next hsome => simp [hnext] at hsome

/-- A field that is known and not set yet is read after its name. -/
theorem readField_of_find {field : RecordField σ} {name : String} {state : σ} {json : Json}
    {change : σ → σ} (hfind : fields.find? (fun field => field.name = name) = some field)
    (hset : field.isSet state = false) (hread : Reads field.read json change) (level : Nat)
    (rest : List Char) :
    readField fields name state (':' :: ' ' :: renderAt level json ++ rest) =
      .ok (change state, rest) := by
  have hcolon : colon (':' :: ' ' :: renderAt level json ++ rest) =
      .ok ([' '] ++ renderAt level json ++ rest) := by
    have hskip := skipGap_append isGap_nil (show isGap ':' = false from rfl)
      ([' '] ++ renderAt level json ++ rest)
    simp_all [colon]
  simp only [readField, hfind, hset, hcolon, hread level [' '] rest isGap_blank, Except.map,
    Bool.false_eq_true, ↓reduceIte]

/-- The fields of a table are its next field and the fields after it. -/
theorem readFields_next {isFirst : Bool} {state changed : σ} {name : String}
    {text rest left : List Char} (hnext : nextField isFirst text = .ok (some (quote name ++ rest)))
    (hfield : readField fields name state rest = .ok (changed, left)) :
    readFields fields isFirst state text = readFields fields false changed left := by
  have hname : readText (quote name ++ rest) = .ok (name, rest) :=
    readText_quote name isGap_nil rest
  rw [readFields]
  split
  · next hfault => simp [hnext] at hfault
  · next hnone => simp [hnext] at hnone
  · next found hsome =>
      rw [hnext] at hsome
      obtain rfl := Option.some.inj (Except.ok.inj hsome)
      split
      · next hfault => simp [hname] at hfault
      · next hread =>
          rw [hname] at hread
          obtain ⟨rfl, rfl⟩ := Prod.mk.inj (Except.ok.inj hread)
          split
          · next hfault => simp [hfield] at hfault
          · next hchanged =>
              rw [hfield] at hchanged
              obtain ⟨rfl, rfl⟩ := Prod.mk.inj (Except.ok.inj hchanged)
              rfl

theorem nextField_first {gap : List Char} (hgap : IsGap gap) (name : String)
    (rest : List Char) :
    nextField true (gap ++ (quote name ++ rest)) = .ok (some (quote name ++ rest)) := by
  have hskip := skipGap_append hgap (show isGap '"' = false from rfl)
    (name.toList.flatMap escape ++ ['"'] ++ rest)
  simp_all [nextField, quote]

theorem nextField_comma {gap : List Char} (hgap : IsGap gap) (name : String)
    (rest : List Char) :
    nextField false (',' :: gap ++ (quote name ++ rest)) = .ok (some (quote name ++ rest)) := by
  have hcomma := skipGap_append isGap_nil (show isGap ',' = false from rfl)
    (gap ++ (quote name ++ rest))
  have hskip := skipGap_append hgap (show isGap '"' = false from rfl)
    (name.toList.flatMap escape ++ ['"'] ++ rest)
  simp_all [nextField, quote]

/-- The fields of a table after its first one are read one by one. -/
theorem readFields_renderFields {state final : σ} {table : List (String × Json)}
    (hfills : Fills fields state table final) (level : Nat) {gap : List Char}
    (hgap : IsGap gap) (rest : List Char) :
    readFields fields false state (renderFields level table ++ (gap ++ '\x7d' :: rest)) =
      .ok (final, rest) := by
  induction hfills with
  | done =>
      rw [renderFields, List.nil_append]
      exact readFields_end false _ hgap rest
  | @next state final name json table field change hfind hset hread hmore ih =>
      rw [renderFields]
      have htext : ',' :: newline level ++ quote name ++ [':', ' '] ++ renderAt level json ++
            renderFields level table ++ (gap ++ '\x7d' :: rest) =
          ',' :: newline level ++ (quote name ++ (':' :: ' ' :: renderAt level json ++
            (renderFields level table ++ (gap ++ '\x7d' :: rest)))) := by
        simp
      rw [htext, readFields_next (nextField_comma (isGap_newline level) name _)
        (readField_of_find hfind hset hread level _)]
      exact ih

/-- A record is read from the table of its fields. -/
theorem reads_record {start final : σ} {build : σ → Option α} {table : List (String × Json)}
    {value : α} (hfills : Fills fields start table final)
    (hfinish : finish fields build final = .ok value) :
    Reads (record fields start build) (.table table) value := by
  intro level gap rest hgap
  change readRecord fields start build _ = _
  unfold readRecord
  cases hfills with
  | done =>
      rw [renderAt, List.append_assoc]
      rw [show ['\x7b', '\x7d'] ++ rest = '\x7b' :: ([] ++ '\x7d' :: rest) from rfl,
        skipGap_append hgap rfl]
      simp only [Char.reduceEq, ↓reduceIte]
      rw [readFields_end true start isGap_nil rest]
      simp [hfinish, Except.map]
  | @next _ _ name json table field change hfind hset hread hmore =>
      rw [renderAt]
      have htext : gap ++ ('\x7b' :: newline (level + 1) ++ quote name ++ [':', ' '] ++
            renderAt (level + 1) json ++ renderFields (level + 1) table ++ newline level ++
            ['\x7d']) ++ rest =
          gap ++ '\x7b' :: (newline (level + 1) ++ (quote name ++
            (':' :: ' ' :: renderAt (level + 1) json ++
              (renderFields (level + 1) table ++ (newline level ++ '\x7d' :: rest))))) := by
        simp
      rw [htext, skipGap_append hgap rfl]
      simp only [Char.reduceEq, ↓reduceIte]
      rw [readFields_next (nextField_first (isGap_newline _) name _)
          (readField_of_find hfind hset hread (level + 1) _),
        readFields_renderFields hmore (level + 1) (isGap_newline level) rest]
      simp [hfinish, Except.map]

/-- What is read from data is read from the whole text of that data, with a line feed. -/
theorem Reads.readAll {reader : Reader α} {json : Json} {value : α}
    (h : Reads reader json value) :
    readAll reader (json.render ++ "\n").toList = .ok value := by
  have htext : (json.render ++ "\n").toList = [] ++ renderAt 0 json ++ ['\n'] := by
    simp [render]
  have hskip : skipGap ['\n'] = [] := rfl
  rw [htext, Reader.readAll, h 0 [] ['\n'] isGap_nil]
  simp [hskip]

end Tables

end Reader

section Schemas

open Reader

theorem fills_textFields3 {first second third : String} (hsecond : first ≠ second)
    (hthird : first ≠ third) (hlast : second ≠ third) (a b c : String) :
    Fills (textFields3 first second third) (none, none, none)
      [(first, .text a), (second, .text b), (third, .text c)] (some a, some b, some c) := by
  have hfirst : (textFields3 first second third).find? (fun field => field.name = first) =
      (textFields3 first second third).head? := by
    simp [textFields3, fieldOf]
  have hmiddle : (textFields3 first second third).find? (fun field => field.name = second) =
      (textFields3 first second third).tail.head? := by
    simp [textFields3, fieldOf, hsecond]
  have hend : (textFields3 first second third).find? (fun field => field.name = third) =
      (textFields3 first second third).tail.tail.head? := by
    simp [textFields3, fieldOf, hthird, hlast]
  exact .next hfirst rfl (reads_fieldOf (reads_text a))
    (.next hmiddle rfl (reads_fieldOf (reads_text b))
      (.next hend rfl (reads_fieldOf (reads_text c)) .done))

theorem ParamType.reads (type : ParamType) : Reads ParamType.reader type.toJson type :=
  reads_record
    (fills_textFields3 (by decide) (by decide) (by decide) type.target type.native
      type.fromTarget) rfl

theorem ReturnType.reads (type : ReturnType) : Reads ReturnType.reader type.toJson type :=
  reads_record
    (fills_textFields3 (by decide) (by decide) (by decide) type.target type.native
      type.toTarget) rfl

theorem MethodParam.reads (param : MethodParam) :
    Reads MethodParam.reader param.toJson param :=
  reads_record
    (.next rfl rfl (reads_fieldOf (reads_text param.name))
      (.next rfl rfl (reads_fieldOf param.type.reads) .done)) rfl

theorem Method.reads (method : Method) : Reads Method.reader method.toJson method :=
  reads_record
    (.next rfl rfl (reads_fieldOf (reads_choice (MethodKind.ofName?_render method.kind)))
      (.next rfl rfl (reads_fieldOf (reads_text method.targetName))
        (.next rfl rfl (reads_fieldOf (reads_text method.nativeName))
          (.next rfl rfl (reads_fieldOf (reads_list MethodParam.reads method.params))
            (.next rfl rfl (reads_fieldOf method.returnType.reads) .done))))) rfl

theorem ClassType.reads (type : ClassType) : Reads ClassType.reader type.toJson type :=
  reads_record
    (.next rfl rfl (reads_fieldOf (reads_text type.targetName))
      (.next rfl rfl (reads_fieldOf (reads_text type.nativeName))
        (.next rfl rfl (reads_fieldOf (reads_list Method.reads type.methods)) .done))) rfl

theorem Dependency.reads (dependency : Dependency) :
    Reads Dependency.reader dependency.toJson dependency :=
  reads_record
    (.next rfl rfl (reads_fieldOf (reads_text dependency.native))
      (.next rfl rfl (reads_fieldOf (reads_text dependency.target)) .done)) rfl

/-- A class interface is read from its schema. -/
theorem ClassInterface.reads (interface : ClassInterface) :
    Reads ClassInterface.reader interface.toJson interface :=
  reads_record
    (.next rfl rfl (reads_fieldOf (reads_text interface.space))
      (.next rfl rfl (reads_fieldOf (reads_list Dependency.reads interface.dependencies))
        (.next rfl rfl (reads_fieldOf interface.classType.reads) .done))) rfl

/-- The text of a schema is read as the interface that it was written for. -/
theorem ClassInterface.ofSchemaText_schemaText (interface : ClassInterface) :
    ClassInterface.ofSchemaText interface.schemaText = .ok interface :=
  interface.reads.readAll

theorem FileTree.readText_write {tree written : FileTree} {path : Path} {content : String}
    (hwrite : tree.write path content.toUTF8 = .ok written) :
    written.readText path = .ok content := by
  unfold FileTree.readText
  rw [FileTree.readBytes_write hwrite]
  simp [String.fromUTF8?, String.fromUTF8, content.isValidUTF8]

end Schemas

section Files

/-- The schema of every interface is read as that interface: from its text, and from every file
that it could be written to. -/
theorem schema_round_trip (interface : ClassInterface) :
    ClassInterface.ofSchemaText interface.schemaText = .ok interface ∧
      ∀ (tree written : FileTree) (path : Path),
        SchemaFile.write tree path interface = .ok written →
          SchemaFile.read written path = .ok interface := by
  refine ⟨interface.ofSchemaText_schemaText, ?_⟩
  intro tree written path hwrite
  unfold SchemaFile.write at hwrite
  split at hwrite
  · next changed hchanged =>
      obtain rfl := Except.ok.inj hwrite
      unfold SchemaFile.read
      rw [FileTree.readText_write hchanged]
      simp [interface.ofSchemaText_schemaText]
  · simp at hwrite

/-- An interface with texts of every kind of character, and with empty lists. -/
def oddInterface : ClassInterface where
  space := "a\"b\\c/\n\t\r\x00\x08\x0c\x1f\x7f"
  dependencies := [⟨"", "\u20ac\u2028"⟩]
  classType :=
    { targetName := "𝒜", nativeName := "\\u0041"
      methods :=
        [⟨.constructor, "new", "𝒜", [], ⟨"", "void", ""⟩⟩,
          ⟨.method, "]", "\x7d", [⟨",", ⟨"\"", "int", ":"⟩⟩, ⟨"x", ⟨"", "", ""⟩⟩], ⟨"", "", "\\"⟩⟩] }

/-- The odd interface is written to a file and read from it. -/
theorem schema_round_trip_odd :
    ∃ written, SchemaFile.write FileTree.empty ⟨"odd.json"⟩ oddInterface = .ok written ∧
      SchemaFile.read written ⟨"odd.json"⟩ = .ok oddInterface := by
  have hwrite : SchemaFile.write FileTree.empty ⟨"odd.json"⟩ oddInterface =
      .ok (FileTree.empty.put ["tmp", "work", "odd.json"]
        (.file oddInterface.schemaText.toUTF8)) := rfl
  exact ⟨_, hwrite, (schema_round_trip oddInterface).2 _ _ _ hwrite⟩

end Files
end HeaderBindings
