import HeaderBindings.Proofs.RegistryGrowth
import HeaderBindings.Proofs.TypeNames
import Mathlib.Data.List.Induction

/-!
# Plain names never collide

A *plain* name has words of small letters and digits with `_` between them.  Its target name
has lost the `_`, but every word still starts with a large letter, so the name can be read back
from it.

**Reading back.**  `separated` puts a `_` before every large letter and makes the letter small.
On the target name of a plain name it gives the name with a `_` in front
(`separated_pascalCase`), so no two plain names have the same target name.

**Requests.**  The record of a target name belongs to the first class with that target name
that was asked for (`holder?_requested`).  Where all names are plain this is the first class
with the same native name.

**Results.**
* `Target.pascalCase_inj`: plain names with the same target name are the same.
* `Registry.holder?_requested`: which class a record was made for, after any requests.
* `plain_names_kept_apart`: when plain names have the same target name, and when a class is
  refused.
-/

namespace HeaderBindings

namespace Target

section Plain

/-- Whether a character can stand in a word of a plain name: a small letter or a digit. -/
def isPlainChar (c : Char) : Bool :=
  c.isLower || c.isDigit

/-- Whether a word is a small letter with small letters and digits behind it. -/
def isPlainWord : List Char → Bool
  | [] => false
  | first :: rest => first.isLower && rest.all isPlainChar

/-- Whether a name is put together from such words with `_` between them. -/
def IsPlain (name : String) : Prop :=
  ∃ words, words ≠ [] ∧ words.all isPlainWord ∧ name.toList = Text.join ['_'] words

/-- Whether a spelling is a name, with or without a namespace in front of it. -/
def IsSpelledAs (name spelling : String) : Prop :=
  spelling = name ∨ ∃ space, spelling = space ++ "::" ++ name

/-- A name in one word with its words separated again: a `_` stands before every large letter,
which is made small. -/
def separated (name : List Char) : List Char :=
  name.flatMap fun c => if c.isUpper then ['_', c.toLower] else [c]

theorem separated_append (first second : List Char) :
    separated (first ++ second) = separated first ++ separated second := by
  simp [separated]

theorem toNat_lt_of_isPlainChar {c : Char} (hplain : isPlainChar c = true) : c.toNat < 128 := by
  have hlower : c.isLower = (decide (c.val ≥ 'a'.val) && decide (c.val ≤ 'z'.val)) := rfl
  simp only [isPlainChar, hlower, Char.isDigit, Bool.or_eq_true, Bool.and_eq_true,
    decide_eq_true_eq, UInt32.le_iff_toNat_le, ge_iff_le, Char.toNat_val] at hplain
  have hz : 'z'.toNat = 122 := rfl
  have hnine : '9'.toNat = 57 := rfl
  omega

/-- A small letter comes back from its upper case form. -/
theorem separated_upper {c : Char} (hletter : c.isLower = true) :
    separated (Text.upper c) = ['_', c] := by
  have htable : ∀ code < 128, (Char.ofNat code).isLower = true →
      separated (Text.upper (Char.ofNat code)) = ['_', Char.ofNat code] := by
    decide +kernel
  have hchar := htable c.toNat (toNat_lt_of_isPlainChar (by simp [isPlainChar, hletter]))
  rw [Char.ofNat_toNat] at hchar
  exact hchar hletter

/-- Small letters and digits are their own lower case forms. -/
theorem separated_lower {c : Char} (hplain : isPlainChar c = true) :
    separated (Text.lower c) = [c] := by
  have htable : ∀ code < 128, isPlainChar (Char.ofNat code) = true →
      separated (Text.lower (Char.ofNat code)) = [Char.ofNat code] := by
    decide +kernel
  have hchar := htable c.toNat (toNat_lt_of_isPlainChar hplain)
  rw [Char.ofNat_toNat] at hchar
  exact hchar hplain

theorem separated_flatMap_lower {rest : List Char} (hplain : rest.all isPlainChar = true) :
    separated (rest.flatMap Text.lower) = rest := by
  induction rest with
  | nil => rfl
  | cons c rest ih =>
      rw [List.all_cons, Bool.and_eq_true] at hplain
      rw [List.flatMap_cons, separated_append, separated_lower hplain.1, ih hplain.2]
      rfl

theorem separated_capitalize {word : List Char} (hword : isPlainWord word = true) :
    separated (Text.capitalize word) = '_' :: word := by
  cases word with
  | nil => cases hword
  | cons first rest =>
      rw [isPlainWord, Bool.and_eq_true] at hword
      rw [Text.capitalize, separated_append, separated_upper hword.1,
        separated_flatMap_lower hword.2]
      rfl

theorem separated_flatMap_capitalize {words : List (List Char)}
    (hwords : words.all isPlainWord = true) :
    separated (words.flatMap Text.capitalize) = words.flatMap fun word => '_' :: word := by
  induction words with
  | nil => rfl
  | cons word words ih =>
      rw [List.all_cons, Bool.and_eq_true] at hwords
      rw [List.flatMap_cons, List.flatMap_cons, separated_append, separated_capitalize hwords.1,
        ih hwords.2]

theorem not_mem_of_isPlainWord {word : List Char} (hword : isPlainWord word = true) {c : Char}
    (hc : isPlainChar c = false) : c ∉ word := by
  cases word with
  | nil => simp
  | cons first rest =>
      rw [isPlainWord, Bool.and_eq_true, List.all_eq_true] at hword
      rw [List.mem_cons, not_or]
      refine ⟨?_, fun hmem => ?_⟩
      · rintro rfl
        simp [isPlainChar, hword.1] at hc
      · exact absurd (hword.2 c hmem) (by simp [hc])

/-- A name is plain if its pieces between the `_` are plain words. -/
theorem isPlain_iff {name : String} :
    IsPlain name ↔ (Text.splitOn '_' name.toList).all isPlainWord = true := by
  constructor
  · rintro ⟨words, hne, hwords, hname⟩
    rw [List.all_eq_true] at hwords
    have hsplit : Text.splitOn '_' name.toList = words := by
      rw [hname]
      exact Text.splitOn_join_of_not_mem hne fun word hword =>
        not_mem_of_isPlainWord (hwords word hword) rfl
    rw [hsplit, List.all_eq_true]
    exact hwords
  · intro hwords
    exact ⟨_, Text.splitOn_ne_nil '_' _, hwords, (Text.splitOn_join '_' _).symm⟩

instance (name : String) : Decidable (IsPlain name) :=
  decidable_of_iff _ isPlain_iff.symm

/-- A plain name can be read back from its target name. -/
theorem separated_pascalCase {name : String} (hplain : IsPlain name) :
    separated (pascalCase name.toList) = '_' :: name.toList := by
  rw [pascalCase, separated_flatMap_capitalize (isPlain_iff.1 hplain),
    Text.flatMap_cons_eq_join '_' (Text.splitOn_ne_nil '_' _), Text.splitOn_join]

/-- Plain names with the same target name are the same. -/
theorem pascalCase_inj {first second : String} (hfirst : IsPlain first) (hsecond : IsPlain second) :
    pascalCase first.toList = pascalCase second.toList ↔ first = second := by
  refine ⟨fun hsame => ?_, fun hsame => by rw [hsame]⟩
  have hback := congrArg separated hsame
  rw [separated_pascalCase hfirst, separated_pascalCase hsecond, List.cons.injEq] at hback
  exact String.toList_injective hback.2

end Plain

section Spellings

theorem IsPlain.colon_not_mem {name : String} (hplain : IsPlain name) : ':' ∉ name.toList := by
  intro hmem
  have hpieces : ':' ∈ (Text.splitOn '_' name.toList).flatten := by
    rw [Text.flatten_splitOn, List.mem_filter]
    exact ⟨hmem, by decide⟩
  obtain ⟨word, hword, hcolon⟩ := List.mem_flatten.1 hpieces
  exact not_mem_of_isPlainWord (List.all_eq_true.1 (isPlain_iff.1 hplain) word hword) rfl hcolon

/-- The target name of a plain name with any namespace. -/
theorem typeName_of_isSpelledAs {name spelling : String} (hplain : IsPlain name)
    (hspelling : IsSpelledAs name spelling) {kind : TypeKind} (hkind : isPrimitive kind = false) :
    typeName kind spelling = String.ofList (pascalCase name.toList) := by
  have hcolon := hplain.colon_not_mem
  have hname : typeName kind name = String.ofList (pascalCase name.toList) := by
    rw [typeName, if_neg (by simp [hkind]), baseName_of_not_mem hcolon]
  rcases hspelling with rfl | ⟨space, rfl⟩
  · exact hname
  · rw [typeName_append_scope kind space fun hhead => hcolon (List.mem_of_head? hhead), hname]

/-- Plain names with any namespaces and types have the same target name only if they are the
same. -/
theorem typeName_eq_iff {first second spelling other : String} {kind otherKind : TypeKind}
    (hfirst : IsPlain first) (hsecond : IsPlain second)
    (hspelling : IsSpelledAs first spelling) (hother : IsSpelledAs second other)
    (hkind : isPrimitive kind = false) (hotherKind : isPrimitive otherKind = false) :
    typeName kind spelling = typeName otherKind other ↔ first = second := by
  rw [typeName_of_isSpelledAs hfirst hspelling hkind,
    typeName_of_isSpelledAs hsecond hother hotherKind, String.ofList_inj,
    pascalCase_inj hfirst hsecond]

end Spellings

end Target

section Requests

/-- A class that is asked for, and the methods that are added to its record then. -/
structure ClassRequest where
  parent : Parent
  methods : List Method := []
deriving DecidableEq

/-- A request as an operation on a survey. -/
def ClassRequest.operation (request : ClassRequest) : Operation :=
  .request request.parent request.methods

/-- The registry of a new survey after some requests, of which some may have been refused. -/
def Registry.requested (settings : Settings) (requests : List ClassRequest) : Registry :=
  (Operation.performAll { settings := settings } (requests.map ClassRequest.operation)).registry

namespace Registry

/-- The class that the record of a target name was made for: its qualified name and its native
name. -/
def holder? (registry : Registry) (target : String) : Option (String × String) :=
  (registry.classOf? target).map fun found => (found.1, found.2.classType.nativeName)

theorem holder?_addMethod (registry : Registry) (position : Nat) (method : Method)
    (target : String) :
    (registry.addMethod position method).holder? target = registry.holder? target := by
  unfold holder? classOf? addMethod modifyAt
  simp only
  cases registry.index.lookup target with
  | none => rfl
  | some slot =>
      simp only [List.getElem?_modify, Option.map_map]
      cases registry.records[slot.position]? with
      | none => rfl
      | some record => by_cases heq : position = slot.position <;> simp [heq, withMethod]

theorem holder?_addMethods (registry : Registry) (position : Nat) (methods : List Method)
    (target : String) :
    (methods.foldl (fun found => found.addMethod position) registry).holder? target =
      registry.holder? target := by
  induction methods generalizing registry with
  | nil => rfl
  | cons method methods ih => rw [List.foldl_cons, ih, holder?_addMethod]

theorem WellFormed.exists_holder? {registry : Registry} (hwf : registry.WellFormed)
    {target : String} {slot : Slot} (hlookup : registry.index.lookup target = some slot) :
    ∃ native, registry.holder? target = some (slot.qualified, native) := by
  obtain ⟨_, record, hrecord, _⟩ := hwf.getElem?_of_mem (mem_index_of_lookup hlookup)
  exact ⟨record.classType.nativeName, by simp [holder?, classOf?, hlookup, hrecord]⟩

/-- A request gives a target name without a record the class that was asked for, and no other
request changes whom a record belongs to. -/
theorem WellFormed.holder?_request {survey : Survey} (hwf : survey.registry.WellFormed)
    (request : ClassRequest) (target : String) :
    (request.operation.perform survey).registry.holder? target =
      if target = request.parent.target then
        some ((survey.registry.holder? target).getD (request.parent.qualified, request.parent.name))
      else survey.registry.holder? target := by
  unfold ClassRequest.operation Operation.perform findOrCreate
  simp only [← Parent.target.eq_1]
  cases hlookup : survey.registry.index.lookup request.parent.target with
  | none =>
      simp only [holder?_addMethods]
      rw [holder?, hwf.classOf?_create hlookup]
      by_cases htarget : target = request.parent.target
      · subst htarget
        rw [if_pos rfl, if_pos rfl, holder?, hwf.classOf?_eq_none_iff.2 hlookup]
        rfl
      · rw [if_neg htarget, if_neg htarget, holder?]
  | some slot =>
      -- A record stays with its class, whether the request is granted or refused.
      have hkept : (if target = request.parent.target then
          some ((survey.registry.holder? target).getD
            (request.parent.qualified, request.parent.name))
        else survey.registry.holder? target) = survey.registry.holder? target := by
        split
        · next htarget =>
            obtain ⟨native, hholder⟩ := hwf.exists_holder? hlookup
            rw [htarget, hholder, Option.getD_some]
        · rfl
      by_cases hqualified : slot.qualified = request.parent.qualified
      · simp only [hqualified, if_true, holder?_addMethods, hkept]
      · simp only [hqualified, if_false, hkept]

theorem wellFormed_requested (settings : Settings) (requests : List ClassRequest) :
    (requested settings requests).WellFormed :=
  (Operation.evolves_performAll _ _).wellFormed wellFormed_empty

/-- The record of a target name belongs to the first class with that target name. -/
theorem holder?_requested (settings : Settings) (requests : List ClassRequest) (target : String) :
    (requested settings requests).holder? target =
      (requests.find? fun request => request.parent.target = target).map fun request =>
        (request.parent.qualified, request.parent.name) := by
  -- From the end, since the last request meets the registry that all others have left.
  induction requests using List.reverseRecOn with
  | nil => rfl
  | append_singleton requests request ih =>
      have hwf := wellFormed_requested settings requests
      have hlast : requested settings (requests ++ [request]) =
          (request.operation.perform (Operation.performAll { settings := settings }
            (requests.map ClassRequest.operation))).registry := by
        simp [requested, Operation.performAll]
      rw [hlast, WellFormed.holder?_request hwf request target, ← requested, ih, List.find?_append]
      cases requests.find? fun earlier => earlier.parent.target = target with
      | some first => simp
      | none => by_cases htarget : target = request.parent.target <;> simp [htarget, eq_comm]

/-- A class is refused if the record of its target name belongs to another one. -/
theorem WellFormed.findOrCreate_eq_error_iff {registry : Registry} (hwf : registry.WellFormed)
    {parent : Parent} {collision : Collision} :
    registry.findOrCreate parent = .error collision ↔
      ∃ existing native, registry.holder? parent.target = some (existing, native) ∧
        existing ≠ parent.qualified ∧
          collision = ⟨parent.target, existing, parent.qualified⟩ := by
  rw [Registry.findOrCreate_eq_error_iff]
  constructor
  · rintro ⟨slot, hlookup, hother, rfl⟩
    obtain ⟨native, hholder⟩ := hwf.exists_holder? hlookup
    exact ⟨slot.qualified, native, hholder, hother, rfl⟩
  · rintro ⟨existing, native, hholder, hother, rfl⟩
    cases hlookup : registry.index.lookup parent.target with
    | none => simp [holder?, classOf?, hlookup] at hholder
    | some slot =>
        obtain ⟨_, hslot⟩ := hwf.exists_holder? hlookup
        rw [hholder, Option.some.injEq, Prod.mk.injEq] at hslot
        exact ⟨slot, hlookup, hslot.1 ▸ hother, hslot.1 ▸ rfl⟩

end Registry

/-- Whether a class has a plain name and a type that is not primitive. -/
def Parent.IsPlain (parent : Parent) : Prop :=
  Target.IsPlain parent.name ∧ Target.isPrimitive parent.type.kind = false

instance (parent : Parent) : Decidable parent.IsPlain :=
  inferInstanceAs (Decidable (_ ∧ _))

theorem Parent.IsPlain.target_eq_iff {first second : Parent} (hfirst : first.IsPlain)
    (hsecond : second.IsPlain) : first.target = second.target ↔ first.name = second.name :=
  Target.typeName_eq_iff hfirst.1 hsecond.1 (Or.inl rfl) (Or.inl rfl) hfirst.2 hsecond.2

/-- Among plain names, the record of a class belongs to the first class with the same name. -/
theorem Parent.IsPlain.holder?_requested {parent : Parent} (hparent : parent.IsPlain)
    (settings : Settings) {requests : List ClassRequest}
    (hrequests : ∀ request ∈ requests, request.parent.IsPlain) :
    (Registry.requested settings requests).holder? parent.target =
      (requests.find? fun request => request.parent.name = parent.name).map fun request =>
        (request.parent.qualified, parent.name) := by
  have hsame : (requests.find? fun request => request.parent.target = parent.target) =
      requests.find? fun request => request.parent.name = parent.name := by
    rw [← List.head?_filter, ← List.head?_filter]
    congr 1
    refine List.filter_congr fun request hmem => ?_
    rw [decide_eq_decide]
    exact (hrequests request hmem).target_eq_iff hparent
  rw [Registry.holder?_requested, hsame]
  cases hfirst : requests.find? fun request => request.parent.name = parent.name with
  | none => rfl
  | some first =>
      have hname : first.parent.name = parent.name := by simpa using List.find?_some hfirst
      rw [Option.map_some, Option.map_some, hname]

/-- **Plain names never collide.**  Plain names with any namespaces and any types that are not
primitive have the same target name if and only if they are the same.  After any requests for
classes with such names, a class is refused if and only if the first class of the same name that
was asked for is another one; the record that is in the way then has the name of the class that
is refused, and was made for another qualified name. -/
theorem plain_names_kept_apart :
    (∀ (first second spelling other : String) (type otherType : NativeType),
      Target.IsPlain first → Target.IsPlain second →
      Target.IsSpelledAs first spelling → Target.IsSpelledAs second other →
      Target.isPrimitive type.kind = false → Target.isPrimitive otherType.kind = false →
      (Target.typeName type.kind spelling = Target.typeName otherType.kind other ↔
        first = second)) ∧
    ∀ (settings : Settings) (requests : List ClassRequest) (parent : Parent),
      (∀ request ∈ requests, request.parent.IsPlain) → parent.IsPlain →
      let registry := Registry.requested settings requests
      ∀ collision : Collision,
        (registry.findOrCreate parent = .error collision ↔
          ∃ first,
            requests.find? (fun request => request.parent.name = parent.name) = some first ∧
            first.parent.qualified ≠ parent.qualified ∧
            collision = ⟨parent.target, first.parent.qualified, parent.qualified⟩) ∧
        (registry.findOrCreate parent = .error collision →
          ∃ record, registry.classOf? collision.target = some (collision.existing, record) ∧
            record.classType.nativeName = parent.name ∧
            collision.incoming = parent.qualified ∧ collision.existing ≠ parent.qualified) := by
  refine ⟨fun first second spelling other type otherType hfirst hsecond hspelling hother hkind
    hotherKind => Target.typeName_eq_iff hfirst hsecond hspelling hother hkind hotherKind, ?_⟩
  intro settings requests parent hrequests hparent registry collision
  have hwf : registry.WellFormed := Registry.wellFormed_requested settings requests
  have hholder : registry.holder? parent.target = _ := hparent.holder?_requested settings hrequests
  rw [hwf.findOrCreate_eq_error_iff]
  refine ⟨?_, ?_⟩
  · rw [hholder]
    constructor
    · rintro ⟨existing, native, hfound, hother, rfl⟩
      obtain ⟨first, hfirst, heq⟩ := Option.map_eq_some_iff.1 hfound
      obtain ⟨rfl, -⟩ := Prod.mk.inj heq
      exact ⟨first, hfirst, hother, rfl⟩
    · rintro ⟨first, hfirst, hother, rfl⟩
      exact ⟨_, _, by rw [hfirst]; rfl, hother, rfl⟩
  · rintro ⟨existing, native, hfound, hother, rfl⟩
    obtain ⟨⟨qualified, record⟩, hclass, heq⟩ := Option.map_eq_some_iff.1 hfound
    obtain ⟨rfl, hnative⟩ := Prod.mk.inj heq
    rw [hholder] at hfound
    obtain ⟨first, -, hnames⟩ := Option.map_eq_some_iff.1 hfound
    refine ⟨record, hclass, ?_, rfl, hother⟩
    rw [hnative, (Prod.mk.inj hnames).2]

/-- Three requests, for two names that differ in a `_` and twice for the second one. -/
def plainRequests : List ClassRequest :=
  [⟨⟨"ab1", NativeType.ofRecord "x::ab1"⟩, []⟩, ⟨⟨"a_b1", NativeType.ofRecord "x::a_b1"⟩, []⟩,
    ⟨⟨"a_b1", NativeType.ofRecord "x::a_b1"⟩, []⟩]

/-- Another class of the second name is refused, because of the class that it shares its name
with. -/
theorem plain_names_kept_apart_digits :
    Target.typeName .record "x::ab1" ≠ Target.typeName .record "y:::a_b1" ∧
      (Registry.requested {} plainRequests).findOrCreate ⟨"a_b1", NativeType.ofRecord "y::a_b1"⟩ =
        .error ⟨"AB1", "x::a_b1", "y::a_b1"⟩ := by
  obtain ⟨hnames, hrefused⟩ := plain_names_kept_apart
  constructor
  · have hdiffer := hnames "ab1" "a_b1" "x::ab1" "y:::a_b1" (NativeType.ofRecord "")
      (NativeType.ofRecord "") (by decide +kernel) (by decide +kernel) (Or.inr ⟨"x", rfl⟩)
      (Or.inr ⟨"y:", rfl⟩) rfl rfl
    exact mt hdiffer.1 (by decide)
  · refine ((hrefused {} plainRequests _ ?_ ?_ _).1).2 ⟨plainRequests[1], ?_, ?_, ?_⟩ <;>
      decide +kernel

end Requests
end HeaderBindings
