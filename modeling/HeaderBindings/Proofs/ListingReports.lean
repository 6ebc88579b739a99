import HeaderBindings.Listing
import HeaderBindings.Proofs.UnresolvedParameters

/-!
# What a listing writes and reports

A listing goes to a writer that may refuse text beyond a number of bytes.  What such a writer
takes is a beginning of the listing, down to the byte, and what is reported is what comes up
in the pieces that are begun.

A listing of a class makes the same checks as collecting the class.  Both go through the
declarations one by one, but they skip declarations for different reasons and in different
places, and collecting reports more.

**Method.**  A writer without a limit takes the bytes and the problems of all pieces
(`writeAll_eq`).  With a limit there is either room for all (`writeUpTo_of_fits`), or one
piece that is begun and does not fit (`writeUpTo_of_cut`).  For the checks, what is said about
one declaration is computed on both sides (`problems_declPieces`,
`unresolvedIn_collectDecl`).

**Results.**
* `cut_listing_is_beginning`: the listing of a writer with a limit.
* `listing_reports_as_collecting`: listing and collecting report the same.
-/

namespace HeaderBindings

section Bytes

/-- The bytes that are read one by one are those of the array. -/
theorem toList_loop (bytes : ByteArray) (position : Nat) (done : List UInt8) :
    ByteArray.toList.loop bytes position done =
      done.reverse ++ bytes.data.toList.drop position := by
  fun_induction ByteArray.toList.loop bytes position done with
  | case1 position done hlt ih =>
      have hinside : position < bytes.data.toList.length := by simpa using hlt
      have hget : bytes.get! position = bytes.data.toList[position] := by
        simp [ByteArray.get!, getElem!_pos bytes.data position hlt]
      rw [ih, List.drop_eq_getElem_cons hinside, hget, List.reverse_cons, List.append_assoc]
      rfl
  | case2 position done hge =>
      have houtside : bytes.data.toList.length ≤ position := by simpa using hge
      rw [List.drop_eq_nil_of_le houtside, List.append_nil]

theorem toList_eq_data (bytes : ByteArray) : bytes.toList = bytes.data.toList := by
  rw [ByteArray.toList, toList_loop, List.reverse_nil, List.nil_append, List.drop_zero]

theorem toList_toUTF8_append (first second : String) :
    (first ++ second).toUTF8.toList = first.toUTF8.toList ++ second.toUTF8.toList := by
  simp [toList_eq_data]

end Bytes

namespace Listing

section Writers

/-- The text of some pieces. -/
def textOf (pieces : List Piece) : String :=
  String.join (pieces.map Piece.text)

/-- The bytes of some pieces. -/
def bytesOf (pieces : List Piece) : List UInt8 :=
  pieces.flatMap Piece.bytes

/-- The problems that come up in some pieces. -/
def problemsOf (pieces : List Piece) : List Diagnostic :=
  pieces.flatMap Piece.problems

theorem bytesOf_eq (pieces : List Piece) : bytesOf pieces = (textOf pieces).toUTF8.toList := by
  induction pieces with
  | nil => simp [bytesOf, textOf, toList_eq_data]
  | cons piece pieces ih =>
      rw [textOf, List.map_cons, String.join_cons, toList_toUTF8_append]
      exact congrArg (piece.bytes ++ ·) ih

/-- A writer without a limit takes everything. -/
theorem writeAll_eq (pieces : List Piece) :
    writeAll pieces = { bytes := bytesOf pieces, problems := problemsOf pieces } := by
  induction pieces with
  | nil => rfl
  | cons piece pieces ih => rw [writeAll, ih]; rfl

/-- So does a writer that has room for everything. -/
theorem writeUpTo_of_fits {limit : Nat} {pieces : List Piece}
    (hfits : (bytesOf pieces).length ≤ limit) : writeUpTo limit pieces = writeAll pieces := by
  have hall := writeUpTo_append limit pieces [] (by rwa [writeAll_eq])
  rw [List.append_nil] at hall
  rw [hall, writeAll_eq]
  simp [writeUpTo, Written.after]

/-- If there is no room for everything, some piece is begun and does not fit. -/
theorem exists_cut {limit : Nat} {pieces : List Piece}
    (hshort : limit < (bytesOf pieces).length) :
    ∃ before piece after, pieces = before ++ piece :: after ∧
      (bytesOf before).length ≤ limit ∧ limit < (bytesOf (before ++ [piece])).length := by
  induction pieces generalizing limit with
  | nil => simp [bytesOf] at hshort
  | cons piece pieces ih =>
      by_cases hpiece : piece.bytes.length ≤ limit
      · have hrest : limit - piece.bytes.length < (bytesOf pieces).length := by
          simp only [bytesOf, List.flatMap_cons, List.length_append] at hshort ⊢
          omega
        obtain ⟨before, cut, after, rfl, hbefore, hcut⟩ := ih hrest
        refine ⟨piece :: before, cut, after, rfl, ?_, ?_⟩ <;>
          · simp only [bytesOf, List.cons_append, List.flatMap_cons, List.length_append]
              at hbefore hcut ⊢
            omega
      · refine ⟨[], piece, pieces, rfl, Nat.zero_le limit, ?_⟩
        simpa [bytesOf] using hpiece

/-- A writer takes what it has room for, and the problems of the piece that does not fit have
come up. -/
theorem writeUpTo_of_cut {limit : Nat} {before after : List Piece} {piece : Piece}
    (hbefore : (bytesOf before).length ≤ limit)
    (hcut : limit < (bytesOf (before ++ [piece])).length) :
    writeUpTo limit (before ++ piece :: after) =
      { bytes := (bytesOf (before ++ piece :: after)).take limit
        problems := problemsOf (before ++ [piece])
        isCut := true } := by
  have hpiece : ¬ piece.bytes.length ≤ limit - (bytesOf before).length := by
    simp only [bytesOf, List.flatMap_append, List.flatMap_cons, List.flatMap_nil,
      List.length_append, List.append_nil] at hbefore hcut ⊢
    omega
  have htake : (bytesOf (before ++ piece :: after)).take limit =
      bytesOf before ++ piece.bytes.take (limit - (bytesOf before).length) := by
    have hsplit : bytesOf (before ++ piece :: after) =
        bytesOf before ++ (piece.bytes ++ bytesOf after) := by
      simp [bytesOf]
    rw [hsplit, List.take_append, List.take_of_length_le hbefore,
      List.take_append_of_le_length (Nat.le_of_not_le hpiece)]
  rw [writeUpTo_append limit before _ (by rwa [writeAll_eq]), writeAll_eq, htake]
  simp [writeUpTo, hpiece, Written.after, problemsOf]

/-- A writer that refused nothing has met every problem. -/
theorem problems_write {limit : Option Nat} {pieces : List Piece}
    (hwhole : (write limit pieces).isCut = false) :
    (write limit pieces).problems = problemsOf pieces := by
  cases limit with
  | none => rw [write, writeAll_eq]
  | some limit =>
      rcases Nat.lt_or_ge limit (bytesOf pieces).length with hshort | hfits
      · obtain ⟨before, piece, after, rfl, hbefore, hcut⟩ := exists_cut hshort
        rw [write, writeUpTo_of_cut hbefore hcut] at hwhole
        cases hwhole
      · rw [write, writeUpTo_of_fits hfits, writeAll_eq]

end Writers

/-- **A cut listing is a beginning of the listing.**  Compare a writer that takes `limit` bytes with
one that takes everything.  It gets the first bytes of the text, as many as there is room for, and
refuses something if and only if the text is longer.  Its problems are the first ones; if the text
is longer, they are those of the pieces before the one that does not fit, and of that one. -/
theorem cut_listing_is_beginning (options : Options) (decls : List Decl) (limit : Nat) :
    let pieces := options.pieces decls
    let full := write none pieces
    let cut := write (some limit) pieces
    full.bytes = (textOf pieces).toUTF8.toList ∧
      cut.bytes = full.bytes.take (min limit full.bytes.length) ∧
      (cut.isCut = true ↔ limit < full.bytes.length) ∧
      cut.problems <+: full.problems ∧
      (full.bytes.length ≤ limit → cut.problems = full.problems) ∧
      (limit < full.bytes.length → ∃ before piece after, pieces = before ++ piece :: after ∧
        (bytesOf before).length ≤ limit ∧ limit < (bytesOf (before ++ [piece])).length ∧
        cut.problems = problemsOf (before ++ [piece])) := by
  intro pieces full cut
  have hfull : full = { bytes := bytesOf pieces, problems := problemsOf pieces } :=
    writeAll_eq pieces
  rw [hfull]
  refine ⟨bytesOf_eq pieces, ?_⟩
  rcases Nat.lt_or_ge limit (bytesOf pieces).length with hshort | hfits
  · obtain ⟨before, piece, after, hpieces, hbefore, hlimit⟩ := exists_cut hshort
    have hcut : cut =
        { bytes := (bytesOf pieces).take limit
          problems := problemsOf (before ++ [piece])
          isCut := true } := by
      rw [hpieces]
      exact (congrArg (writeUpTo limit) hpieces).trans (writeUpTo_of_cut hbefore hlimit)
    have hprefix : problemsOf (before ++ [piece]) <+: problemsOf pieces := by
      refine ⟨problemsOf after, ?_⟩
      simp [problemsOf, hpieces]
    rw [hcut, Nat.min_eq_left (Nat.le_of_lt hshort)]
    exact ⟨rfl, iff_of_true rfl hshort, hprefix, fun hfits => absurd hfits (Nat.not_le.2 hshort),
      fun _ => ⟨before, piece, after, hpieces, hbefore, hlimit, rfl⟩⟩
  · have hcut : cut = { bytes := bytesOf pieces, problems := problemsOf pieces } :=
      (writeUpTo_of_fits hfits).trans (writeAll_eq pieces)
    rw [hcut, Nat.min_eq_right hfits, List.take_length]
    exact ⟨rfl, iff_of_false Bool.false_ne_true (Nat.not_lt.2 hfits), List.prefix_rfl,
      fun _ => rfl, fun hshort => absurd hshort (Nat.not_lt.2 hfits)⟩

end Listing

section Checks

/-- Whether a problem is that the frontend did not resolve something: a declaration, or the type of
an argument. -/
def Diagnostic.isUnresolved (diagnostic : Diagnostic) : Bool :=
  diagnostic.kind = .invalidDeclaration || diagnostic.kind = .invalidArgumentType

/-- The reports about what the frontend did not resolve, in order. -/
def unresolvedIn (diagnostics : List Diagnostic) : List Diagnostic :=
  diagnostics.filter Diagnostic.isUnresolved

@[simp] theorem unresolvedIn_append (first second : List Diagnostic) :
    unresolvedIn (first ++ second) = unresolvedIn first ++ unresolvedIn second := by
  simp [unresolvedIn]

theorem unresolvedIn_flatMap {α : Type} (items : List α) (problems : α → List Diagnostic) :
    unresolvedIn (items.flatMap problems) =
      items.flatMap fun item => unresolvedIn (problems item) := by
  simp [unresolvedIn, List.filter_flatMap]

/-- Where all problems are of one kind, all or none are about what was not resolved. -/
theorem unresolvedIn_of_reportsOf (kind : DiagnosticKind) {diagnostics : List Diagnostic}
    (hkind : reportsOf kind diagnostics = diagnostics) :
    unresolvedIn diagnostics =
      if kind = .invalidDeclaration ∨ kind = .invalidArgumentType then diagnostics else [] := by
  have hall : ∀ diagnostic ∈ diagnostics, diagnostic.kind = kind := by
    intro diagnostic hmem
    rw [← hkind] at hmem
    exact of_decide_eq_true (List.mem_filter.1 hmem).2
  split
  · next hfits =>
      rw [unresolvedIn, List.filter_eq_self]
      intro diagnostic hmem
      simpa [Diagnostic.isUnresolved, hall diagnostic hmem] using hfits
  · next hother =>
      rw [unresolvedIn, List.filter_eq_nil_iff]
      intro diagnostic hmem
      simpa [Diagnostic.isUnresolved, hall diagnostic hmem] using hother

@[simp] theorem unresolvedIn_declProblems (decl : Decl) :
    unresolvedIn decl.problems = decl.problems :=
  unresolvedIn_of_reportsOf .invalidDeclaration (by simp)

@[simp] theorem unresolvedIn_argumentProblems (argument : Argument) :
    unresolvedIn argument.problems = argument.problems :=
  unresolvedIn_of_reportsOf .invalidArgumentType (by simp)

/-- Of the problems with an argument only the check of its type is about what was not
resolved. -/
theorem unresolvedIn_paramProblems (argument : Argument) :
    unresolvedIn argument.paramProblems = argument.problems := by
  have hkind : unresolvedIn (Target.paramKindProblems argument) = [] :=
    unresolvedIn_of_reportsOf .unknownParameterKind (by simp)
  have hunmapped : ∀ target, unresolvedIn (Target.unmappedProblems target argument.position) = [] :=
    fun target => unresolvedIn_of_reportsOf .unmappedPrimitive (by simp)
  have hconversion : unresolvedIn
      (Target.conversionProblems argument.type.spelling argument.position) = [] :=
    unresolvedIn_of_reportsOf .unknownConversion (by simp)
  simp [Argument.paramProblems, hkind, hunmapped, hconversion]

theorem unresolvedIn_methodEvents (kind : MethodKind) (decl : Decl) (parent : Parent) :
    unresolvedIn (diagnosticsOf (methodEvents kind decl parent)) =
      decl.arguments.flatMap Argument.problems := by
  have hresult : ∀ target, unresolvedIn (Target.unmappedProblems target decl.position) = [] :=
    fun target => unresolvedIn_of_reportsOf .unmappedPrimitive (by simp)
  simp [methodEvents, diagnosticsOf_toTargetRemarks, unresolvedIn_flatMap,
    unresolvedIn_paramProblems, hresult]

/-- What the checks say about a declaration when a class is collected: about the declaration itself,
and about the arguments of a member. -/
def Selection.checks (selection : Selection) (decl : Decl) : List Diagnostic :=
  if !decl.kind.isConcerned then []
  else
    decl.problems ++
      if selection.isMember decl then decl.arguments.flatMap Argument.problems else []

/-- Whether the class of a member is refused does not matter for the checks. -/
theorem unresolvedIn_collectDecl (selection : Selection) (registry : Registry) (decl : Decl) :
    unresolvedIn (diagnosticsOf (collectDecl selection registry decl).2) =
      selection.checks decl := by
  unfold collectDecl Selection.checks Selection.isMember
  split
  · rfl
  · cases selection.member? decl with
    | none => simp
    | some found =>
        have hrecord : unresolvedIn
            (diagnosticsOf (recordMember registry decl found.1 found.2).2) = [] := by
          unfold recordMember
          split <;> rfl
        simp [unresolvedIn_methodEvents, hrecord]

/-- The checks of a collection do not depend on the registry. -/
theorem unresolvedIn_collect (selection : Selection) (registry : Registry) (decls : List Decl) :
    unresolvedIn (diagnosticsOf (collect selection registry decls).2) =
      decls.flatMap selection.checks := by
  induction decls generalizing registry with
  | nil => rfl
  | cons decl decls ih =>
      simp only [collect, diagnosticsOf_append, unresolvedIn_append, unresolvedIn_collectDecl, ih,
        List.flatMap_cons]

end Checks

namespace Listing

section Checks

variable {options : Options} {name : String}

/-- The members of a class are the constructors and methods that its listing shows. -/
theorem isMember_eq (hclass : options.className = some name) (hname : name ≠ "") (decl : Decl) :
    Selection.isMember ⟨name, .isPublic⟩ decl =
      (options.shows decl && (MethodKind.ofDecl? decl.kind).isSome) := by
  unfold Selection.isMember Selection.member? Options.shows
  rw [hclass]
  by_cases haccess : decl.access = some .isPublic
  · cases hparent : decl.lexicalParent with
    | none =>
        -- A declaration without a parent is listed as if its parent had no name.
        simp [haccess, parentName, hname]
    | some parent =>
        cases MethodKind.ofDecl? decl.kind with
        | none => simp [haccess]
        | some kind =>
            by_cases hparentName : parent.name = name
            · simp [haccess, parentName, hparentName]
            · simp [haccess, parentName, hparentName, Ne.symm hparentName]
  · simp [haccess]

theorem problemsOf_briefLines (decl : Decl) : problemsOf (briefLines decl) = [] := by
  unfold briefLines
  cases decl.brief <;> rfl

theorem problemsOf_argumentPieces (decl : Decl) :
    problemsOf (argumentPieces decl) =
      if (MethodKind.ofDecl? decl.kind).isSome then decl.arguments.flatMap Argument.problems
      else [] := by
  unfold argumentPieces
  cases MethodKind.ofDecl? decl.kind with
  | none => rfl
  | some kind => simp [problemsOf, List.flatMap_map]

/-- The problems of the pieces of a declaration are those that the checks find when the class is
collected. -/
theorem problemsOf_declPieces (hclass : options.className = some name) (hname : name ≠ "")
    (decl : Decl) :
    problemsOf (options.declPieces decl) = Selection.checks ⟨name, .isPublic⟩ decl := by
  unfold Options.declPieces Selection.checks
  rw [isMember_eq hclass hname]
  split
  · rfl
  · cases options.shows decl with
    | false => simp [problemsOf]
    | true =>
        have hpieces : problemsOf (({ problems := decl.problems, text := options.declLine decl } :
            Piece) :: (briefLines decl ++ argumentPieces decl)) =
              decl.problems ++ (problemsOf (briefLines decl) ++
                problemsOf (argumentPieces decl)) := by
          simp [problemsOf]
        simp only [if_true, Bool.true_and, hpieces, problemsOf_briefLines,
          problemsOf_argumentPieces, List.nil_append]

/-- The problems of a listing, declaration by declaration. -/
theorem problemsOf_pieces (hclass : options.className = some name) (hname : name ≠ "")
    (decls : List Decl) :
    problemsOf (options.pieces decls) = decls.flatMap (Selection.checks ⟨name, .isPublic⟩) := by
  unfold Options.pieces problemsOf
  rw [List.flatMap_assoc]
  exact List.flatMap_congr fun decl _ => problemsOf_declPieces hclass hname decl

end Checks

/-- **Listing and collecting report the same.**  List a class with a name to a writer that refuses
nothing, and collect its public members into any survey.  What is reported about declarations and
arguments that the frontend did not resolve is the same, in the same order, and the listing
reports nothing else. -/
theorem listing_reports_as_collecting (survey : Survey) (decls : List Decl) (name : String)
    (pathRoot : Option Pattern) (limit : Option Nat) (hname : name ≠ "")
    (hwhole : (write limit (Options.pieces ⟨pathRoot, some name⟩ decls)).isCut = false) :
    let listed := (write limit (Options.pieces ⟨pathRoot, some name⟩ decls)).problems
    let collected := diagnosticsOf (survey.collect ⟨name, .isPublic⟩ decls).2
    unresolvedIn listed = unresolvedIn collected ∧ unresolvedIn listed = listed := by
  intro listed collected
  have hlisted : listed = decls.flatMap (Selection.checks ⟨name, .isPublic⟩) :=
    (problems_write hwhole).trans (problemsOf_pieces rfl hname decls)
  have hcollected : unresolvedIn collected =
      decls.flatMap (Selection.checks ⟨name, .isPublic⟩) :=
    unresolvedIn_collect ⟨name, .isPublic⟩ survey.registry decls
  have hall : unresolvedIn listed = listed := by
    rw [hlisted, ← hcollected]
    simp [unresolvedIn]
  exact ⟨hall.trans (hlisted.trans hcollected.symm), hall⟩

section Refused

/-- A method whose argument is suspicious, of a class with the target name `A`. -/
def suspiciousMember (access : Access) (parent : Option Parent) : Decl where
  kind := .method
  name := "f"
  access := some access
  lexicalParent := parent
  arguments :=
    [{ name := "s", type := { kind := .lValueReference, spelling := "const int &" },
       tokens := ["const", "string", "&", "s"], position := ⟨"a.h", 4, 9⟩ }]

/-- An invalid class, a member of a class that is refused, one that is not public, and one without
a parent. -/
def refusedDecls : List Decl :=
  [{ kind := .classDecl, name := "a", isInvalid := true },
    suspiciousMember .isPublic (some ⟨"a", NativeType.ofRecord "other::a"⟩),
    suspiciousMember .isPrivate (some (Parent.ofClass "a")),
    suspiciousMember .isPublic none]

/-- The member that is refused is checked by both; the other two are checked by none. -/
theorem listing_reports_as_collecting_refused :
    let listed := (write none (Options.pieces ⟨none, some "a"⟩ refusedDecls)).problems
    let collected := diagnosticsOf (mixedStart.collect ⟨"a", .isPublic⟩ refusedDecls).2
    listed = unresolvedIn collected ∧
      listed.map Diagnostic.kind = [.invalidDeclaration, .invalidArgumentType] ∧
      collected.map Diagnostic.kind =
        [.invalidDeclaration, .invalidArgumentType, .unknownParameterKind, .unknownConversion,
          .targetNameCollision] := by
  intro listed collected
  have hwhole : (write none (Options.pieces ⟨none, some "a"⟩ refusedDecls)).isCut = false := by
    rw [write, writeAll_eq]
  obtain ⟨hsame, hall⟩ := listing_reports_as_collecting mixedStart refusedDecls "a" none none
    (by decide) hwhole
  exact ⟨hall.symm.trans hsame, by decide +kernel, by decide +kernel⟩

end Refused

end Listing
end HeaderBindings
