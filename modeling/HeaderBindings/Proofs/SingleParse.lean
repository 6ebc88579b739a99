import HeaderBindings.Proofs.Calls
import HeaderBindings.Proofs.WalkReach
import Mathlib.Data.List.Nodup

/-!
# Each header is parsed once

In recursive mode a frontend gives out at most one unit for each visit key, however
many calls are made, in whatever spelling the headers are written, and whether the
calls succeed or fail.

**Exchanges.**  The record of a run lists what the frontend was asked for and what it
answered.  It leaves nothing out: a frontend with the same answers leads to the same
call (`step_withFrontend`).

**Why it holds.**  An included header is marked before it is asked for, and the header
of a call after its unit came.  So a header may be asked for twice only if its unit did
not come, and a header without a unit may also stay marked.  `step_asks` says this of
one call: what it asks for is new and has different keys, and every unit that came is
marked.  A run follows by induction (`nodup_parsedKeys`).

**Results.**
* `declsOf_of_visited`, `declsOf_of_missing`, `declsOf_of_parsed`: the three ways to look
  a header up in recursive mode.
* `Survey.parsed_at_most_once`: what a run asks of its frontends.
-/

namespace HeaderBindings

/-- Whether every unit of a frontend has the key of the header that was asked for. -/
def Frontend.KeepsKeys (frontend : Frontend) (files : FileTree) : Prop :=
  ∀ path unit, frontend.parse path = .ok unit →
    (visitKey files unit.path).components = (visitKey files path).components

namespace WalkSetting

section Answers

variable {setting : WalkSetting} {names : List Path}
  {hnames : ∀ name ∈ setting.frontend.names, name ∈ names}

/-- Only the answers to its requests matter to a walk. -/
theorem walk_withFrontend {other : Frontend} {names' : List Path}
    {hnames' : ∀ name ∈ other.names, name ∈ names'} (visited : List Key)
    (stack : List OpenUnit) (hstack : Covers names stack) (hstack' : Covers names' stack)
    (hanswers : ∀ path ∈ (setting.walk names hnames visited stack hstack).requests,
      other.parse path = setting.frontend.parse path) :
    WalkSetting.walk { setting with frontend := other } names' hnames' visited stack hstack' =
      setting.walk names hnames visited stack hstack := by
  let changed : WalkSetting := { setting with frontend := other }
  refine walk_induction (motive := fun visited stack result =>
    (∀ path ∈ result.requests, other.parse path = setting.frontend.parse path) →
      ∀ hstack', changed.walk names' hnames' visited stack hstack' = result)
    ?_ ?_ ?_ ?_ ?_ visited stack hstack hanswers hstack'
  · intro visited _ hstack'
    exact walk_nil hstack'
  · intro visited unit rest result ih hanswers hstack'
    rw [walk_close, ih hanswers]
  · intro visited unit path pending rest result hskip ih hanswers hstack'
    have hskip' : changed.skips visited path = true := hskip
    rw [walk_skip hstack' hskip', ih hanswers]
  · intro visited unit path pending rest reason hskip hparse hanswers hstack'
    have hskip' : changed.skips visited path = false := hskip
    have hparse' : changed.frontend.parse path = .error reason :=
      (hanswers path List.mem_cons_self).trans hparse
    rw [walk_fail hstack' hskip' hparse']
  · intro visited unit path pending rest included result hskip hparse ih hanswers hstack'
    have hskip' : changed.skips visited path = false := hskip
    have hparse' : changed.frontend.parse path = .ok included :=
      (hanswers path List.mem_cons_self).trans hparse
    rw [walk_enter hstack' hskip' hparse',
      ih fun asked hasked => hanswers asked (List.mem_cons_of_mem _ hasked)]

theorem walkUnit_withFrontend {other : Frontend} (visited : List Key) (root : SourceUnit)
    (hanswers : ∀ path ∈ (setting.walkUnit visited root).requests,
      other.parse path = setting.frontend.parse path) :
    WalkSetting.walkUnit { setting with frontend := other } visited root =
      setting.walkUnit visited root :=
  walk_withFrontend _ _ _ _ hanswers

end Answers

/-- The walk of a unit marks the headers that it asks for, and no others. -/
theorem visited_walkUnit (setting : WalkSetting) (visited : List Key) (root : SourceUnit) :
    (setting.walkUnit visited root).visited =
      visited ++ (setting.walkUnit visited root).requests.map setting.key :=
  visited_walk _ _ _

end WalkSetting

namespace Survey

section Answers

variable {survey : Survey} {files : FileTree} {frontend other : Frontend}

theorem walk_withFrontend {root : SourceUnit}
    (hanswers : ∀ path ∈ (survey.walk files frontend root).requests,
      other.parse path = frontend.parse path) :
    survey.walk files other root = survey.walk files frontend root := by
  unfold walk at hanswers ⊢
  split
  · next hrecursive =>
      rw [if_pos hrecursive] at hanswers
      split
      · rfl
      · next hnew =>
          rw [if_neg hnew] at hanswers
          have hresult := WalkSetting.walkUnit_withFrontend _ _ hanswers
          simp only [walkSetting] at hresult ⊢
          rw [hresult]
  · rfl

theorem parseAndWalk_withFrontend {header : Path}
    (hanswers : ∀ path ∈ (survey.parseAndWalk files frontend header).requests,
      other.parse path = frontend.parse path) :
    survey.parseAndWalk files other header = survey.parseAndWalk files frontend header := by
  cases hparse : frontend.parse header with
  | error reason =>
      simp only [parseAndWalk, hparse] at hanswers ⊢
      rw [hanswers header List.mem_cons_self, hparse]
  | ok root =>
      simp only [parseAndWalk, hparse] at hanswers ⊢
      rw [hanswers header List.mem_cons_self, hparse]
      simp only [walk_withFrontend fun path hpath =>
        hanswers path (List.mem_cons_of_mem _ hpath)]

theorem declsOf_withFrontend {header : Path}
    (hanswers : ∀ path ∈ (survey.declsOf files frontend header).requests,
      other.parse path = frontend.parse path) :
    survey.declsOf files other header = survey.declsOf files frontend header := by
  unfold declsOf at hanswers ⊢
  split
  · next hrecursive =>
      rw [if_pos hrecursive] at hanswers
      split
      · rfl
      · next hnew =>
          rw [if_neg hnew] at hanswers
          simp only [parseAndWalk_withFrontend hanswers]
  · next hplain =>
      rw [if_neg hplain] at hanswers
      exact parseAndWalk_withFrontend hanswers

end Answers

section Lookup

variable {survey : Survey} {files : FileTree} {frontend : Frontend} {header : Path}

theorem isVisited_eq_true_iff {path : Path} :
    survey.isVisited files path = true ↔ (visitKey files path).components ∈ survey.visited := by
  simp [isVisited]

theorem isVisited_eq_false_iff {path : Path} :
    survey.isVisited files path = false ↔ (visitKey files path).components ∉ survey.visited := by
  simp [isVisited]

/-- A header that was visited is not asked for. -/
theorem declsOf_of_visited (hrecursive : survey.settings.isRecursive = true)
    (hvisited : survey.isVisited files header = true) :
    survey.declsOf files frontend header =
      { survey := survey, outcome := .ok survey.walked } := by
  simp only [declsOf, hrecursive, hvisited, if_true]

/-- A header without a unit leaves the survey as it is. -/
theorem declsOf_of_missing (hrecursive : survey.settings.isRecursive = true)
    (hnew : survey.isVisited files header = false) {reason : String}
    (hparse : frontend.parse header = .error reason) :
    survey.declsOf files frontend header =
      { survey := survey, requests := [header], outcome := .error ⟨header, reason⟩ } := by
  simp [declsOf, hrecursive, hnew, parseAndWalk, hparse, Except.map]

/-- A new header with a unit is marked, and the headers behind it are walked. -/
theorem declsOf_of_parsed (hrecursive : survey.settings.isRecursive = true)
    (hnew : survey.isVisited files header = false) {root : SourceUnit}
    (hparse : frontend.parse header = .ok root)
    (hown : (visitKey files root.path).components = (visitKey files header).components) :
    let setting := survey.walkSetting files frontend
    let result := setting.walkUnit (survey.visited ++ [setting.key header]) root
    survey.declsOf files frontend header =
      { survey :=
          { survey with
            visited := result.visited
            walked := survey.walked ++ result.outcome.toOption.getD [] }
        requests := header :: result.requests
        events := result.events
        outcome :=
          result.outcome.map fun _ => survey.walked ++ result.outcome.toOption.getD [] } := by
  intro setting result
  have hkey : (survey.walkSetting files frontend).key root.path = setting.key header := hown
  have hnewRoot : survey.isVisited files root.path = false := by
    rw [isVisited_eq_false_iff] at hnew ⊢
    rwa [hown]
  have hwalk := walk_eq_of_new hrecursive hnewRoot frontend
  simp only [hkey] at hwalk
  simp only [declsOf, hrecursive, hnew, parseAndWalk, hparse, hwalk]
  rfl

end Lookup

end Survey

namespace ExtractCall

section Asking

variable {survey : Survey} {call : ExtractCall}

/-- A call asks and marks what its walk asks and marks. -/
theorem step_walk (call : ExtractCall) (survey : Survey) :
    let walk := survey.declsOf call.files call.frontend call.header
    (call.step survey).requests = walk.requests ∧
      (call.step survey).survey.visited = walk.survey.visited ∧
        (call.step survey).survey.walked = walk.survey.walked ∧
          (call.step survey).survey.settings = survey.settings := by
  intro walk
  obtain ⟨-, hsettings, -⟩ := survey.declsOf_frame call.files call.frontend call.header
  cases hdecls : walk.outcome with
  | error failure =>
      rw [step_of_error hdecls]
      exact ⟨rfl, rfl, rfl, hsettings⟩
  | ok decls =>
      rw [step_of_ok hdecls]
      obtain ⟨hvisited, hwalked, hsettings'⟩ :=
        (call.afterWalk survey).extractAll_frame call.header decls call.selections
      exact ⟨rfl, hvisited, hwalked, hsettings'.trans hsettings⟩

/-- Only the answers to its requests matter to a call. -/
theorem step_withFrontend {other : Frontend}
    (hanswers : ∀ path ∈ (call.step survey).requests,
      other.parse path = call.frontend.parse path) :
    ExtractCall.step { call with frontend := other } survey = call.step survey := by
  obtain ⟨hrequests, -⟩ := call.step_walk survey
  rw [hrequests] at hanswers
  simp only [step, Survey.extract, Survey.declsOf_withFrontend hanswers]

/-- What a call asks for is new and has different keys, and what it was given is marked. -/
theorem step_asks (hrecursive : survey.settings.isRecursive = true)
    (hkeys : call.frontend.KeepsKeys call.files) :
    let key := fun path : Path => (visitKey call.files path).components
    ∃ added, (call.step survey).survey.visited = survey.visited ++ added ∧
      ((call.step survey).requests.map key).Nodup ∧
        ∀ path ∈ (call.step survey).requests, key path ∉ survey.visited ∧
          ∀ unit, call.frontend.parse path = .ok unit → key path ∈ added := by
  intro key
  obtain ⟨hrequests, hvisited, -⟩ := call.step_walk survey
  rw [hrequests, hvisited]
  cases hheader : survey.isVisited call.files call.header with
  | true =>
      rw [Survey.declsOf_of_visited hrecursive hheader]
      exact ⟨[], (List.append_nil _).symm, List.nodup_nil, by simp⟩
  | false =>
      have hnew : key call.header ∉ survey.visited := Survey.isVisited_eq_false_iff.1 hheader
      cases hparse : call.frontend.parse call.header with
      | error reason =>
          rw [Survey.declsOf_of_missing hrecursive hheader hparse]
          refine ⟨[], (List.append_nil _).symm, List.nodup_singleton _, ?_⟩
          intro path hpath
          obtain rfl := List.mem_singleton.1 hpath
          refine ⟨hnew, fun unit hunit => ?_⟩
          rw [hparse] at hunit
          cases hunit
      | ok root =>
          rw [Survey.declsOf_of_parsed hrecursive hheader hparse
            (hkeys call.header root hparse)]
          let setting := survey.walkSetting call.files call.frontend
          let result := setting.walkUnit (survey.visited ++ [setting.key call.header]) root
          obtain ⟨hnodup, hfresh⟩ := setting.walkUnit_requests_spec
            (survey.visited ++ [setting.key call.header]) root
          have hmarked : result.visited =
              survey.visited ++ [setting.key call.header] ++ result.requests.map key :=
            setting.visited_walkUnit _ _
          refine ⟨(call.header :: result.requests).map key, ?_, ?_, ?_⟩
          · exact hmarked.trans (List.append_assoc _ _ _)
          -- The header is marked before its includes, so none of them has its key.
          · refine List.nodup_cons.2 ⟨fun hmem => ?_, hnodup⟩
            obtain ⟨path, hpath, hkey⟩ := List.mem_map.1 hmem
            exact (hfresh path hpath).2 (List.mem_append_right _ (List.mem_singleton.2 hkey))
          · intro path hpath
            refine ⟨?_, fun _ _ => List.mem_map_of_mem hpath⟩
            rcases List.mem_cons.1 hpath with rfl | hincluded
            · exact hnew
            · exact fun hold => (hfresh path hincluded).2 (List.mem_append_left _ hold)

end Asking

end ExtractCall

section Runs

/-- What a frontend was asked for, and its answer. -/
structure Exchange where
  path : Path
  answer : Except String SourceUnit

/-- Whether the frontend gave out a unit for a header of some key. -/
def Exchange.gives (files : FileTree) (key : Key) (exchange : Exchange) : Bool :=
  exchange.answer.isOk && (visitKey files exchange.path).components == key

/-- What a call asks the frontend, with the answers. -/
def ExtractCall.exchanges (call : ExtractCall) (survey : Survey) : List Exchange :=
  (call.step survey).requests.map fun path => ⟨path, call.frontend.parse path⟩

/-- The keys of the headers that a call was given a unit for. -/
def ExtractCall.parsedKeys (call : ExtractCall) (survey : Survey) : List Key :=
  ((call.step survey).requests.filter fun path => (call.frontend.parse path).isOk).map
    fun path => (visitKey call.files path).components

namespace Survey

/-- The survey after some calls, whether they succeed or fail. -/
def afterAll (survey : Survey) (calls : List ExtractCall) : Survey :=
  calls.foldl (fun survey call => (call.step survey).survey) survey

/-- What some calls ask their frontends, with the answers. -/
def exchanges (survey : Survey) : List ExtractCall → List Exchange
  | [] => []
  | call :: calls => call.exchanges survey ++ (call.step survey).survey.exchanges calls

/-- The keys of the headers that some calls were given a unit for. -/
def parsedKeys (survey : Survey) (files : FileTree) (calls : List ExtractCall) : List Key :=
  ((survey.exchanges calls).filter fun exchange => exchange.answer.isOk).map fun exchange =>
    (visitKey files exchange.path).components

/-- A call keeps the settings. -/
theorem settings_afterAll (survey : Survey) (calls : List ExtractCall) :
    (survey.afterAll calls).settings = survey.settings := by
  induction calls generalizing survey with
  | nil => rfl
  | cons call calls ih =>
      obtain ⟨-, -, -, hsettings⟩ := call.step_walk survey
      exact (ih _).trans hsettings

/-- The number of units given out for a key. -/
theorem countP_gives (survey : Survey) (files : FileTree) (calls : List ExtractCall)
    (key : Key) :
    (survey.exchanges calls).countP (Exchange.gives files key) =
      (survey.parsedKeys files calls).count key := by
  rw [parsedKeys, List.count_eq_countP, List.countP_map, List.countP_filter]
  refine List.countP_congr fun exchange _ => ?_
  simp [Exchange.gives, and_comm]

theorem parsedKeys_cons (survey : Survey) (call : ExtractCall) (calls : List ExtractCall) :
    survey.parsedKeys call.files (call :: calls) =
      call.parsedKeys survey ++ (call.step survey).survey.parsedKeys call.files calls := by
  simp only [parsedKeys, exchanges, ExtractCall.exchanges, List.filter_append, List.map_append,
    List.filter_map, List.map_map]
  rfl

/-- The units that come in a run have different keys, none of which was visited before. -/
theorem nodup_parsedKeys {survey : Survey} {files : FileTree} {calls : List ExtractCall}
    (hrecursive : survey.settings.isRecursive = true)
    (hcalls : ∀ call ∈ calls, call.files = files ∧ call.frontend.KeepsKeys files) :
    (survey.parsedKeys files calls).Nodup ∧
      ∀ key ∈ survey.parsedKeys files calls, key ∉ survey.visited := by
  induction calls generalizing survey with
  | nil => exact ⟨List.nodup_nil, by simp [parsedKeys, exchanges]⟩
  | cons call calls ih =>
      obtain ⟨hfiles, hkeys⟩ := hcalls call List.mem_cons_self
      subst hfiles
      obtain ⟨added, hvisited, hdifferent, hasked⟩ := ExtractCall.step_asks hrecursive hkeys
      obtain ⟨-, -, -, hsettings⟩ := call.step_walk survey
      obtain ⟨hlater, hlaterNew⟩ := ih (hsettings ▸ hrecursive)
        fun other hother => hcalls other (List.mem_cons_of_mem _ hother)
      rw [hvisited] at hlaterNew
      -- A unit that came marks its key, and the later calls ask for keys without a mark.
      have hgiven : ∀ key ∈ call.parsedKeys survey, key ∉ survey.visited ∧ key ∈ added := by
        intro key hkey
        obtain ⟨path, hpath, rfl⟩ := List.mem_map.1 hkey
        obtain ⟨hrequest, hok⟩ := List.mem_filter.1 hpath
        obtain ⟨hnew, hmarked⟩ := hasked path hrequest
        cases hparse : call.frontend.parse path with
        | error reason =>
            rw [hparse] at hok
            cases hok
        | ok unit => exact ⟨hnew, hmarked unit hparse⟩
      rw [parsedKeys_cons]
      refine ⟨List.nodup_append.2 ⟨?_, hlater, ?_⟩, ?_⟩
      · exact hdifferent.sublist (List.filter_sublist.map _)
      · intro key hkey other hother heq
        exact hlaterNew other hother (List.mem_append_right _ (heq ▸ (hgiven key hkey).2))
      · intro key hkey
        rcases List.mem_append.1 hkey with hfirst | hrest
        · exact (hgiven key hfirst).1
        · exact fun hold => hlaterNew key hrest (List.mem_append_left _ hold)

/-- **Each header is parsed at most once.**  Over calls in one file tree whose frontends keep the
keys, and whatever becomes of the calls, at most one unit is given out for each key.  No call
asks for a header that is visited when it starts, and what is visited stays visited.  The
exchanges are all that a call learns from its frontend. -/
theorem parsed_at_most_once {survey : Survey} {files : FileTree} {calls : List ExtractCall}
    (hrecursive : survey.settings.isRecursive = true)
    (hcalls : ∀ call ∈ calls, call.files = files ∧ call.frontend.KeepsKeys files) :
    (∀ key, (survey.exchanges calls).countP (Exchange.gives files key) ≤ 1) ∧
      ∀ before call after, calls = before ++ call :: after →
        let now := survey.afterAll before
        (∀ path ∈ (call.step now).requests, now.isVisited files path = false) ∧
          now.visited <+: (call.step now).survey.visited ∧
          ∀ other : Frontend,
            (∀ exchange ∈ call.exchanges now, other.parse exchange.path = exchange.answer) →
              ExtractCall.step { call with frontend := other } now = call.step now := by
  constructor
  · intro key
    rw [countP_gives]
    exact List.nodup_iff_count_le_one.1 (nodup_parsedKeys hrecursive hcalls).1 key
  · intro before call after hsplit now
    obtain ⟨hfiles, hkeys⟩ := hcalls call (hsplit ▸ by simp)
    subst hfiles
    have hnow : now.settings.isRecursive = true := by
      rw [settings_afterAll]
      exact hrecursive
    obtain ⟨added, hvisited, -, hasked⟩ := ExtractCall.step_asks hnow hkeys
    refine ⟨?_, ⟨added, hvisited.symm⟩, ?_⟩
    · intro path hpath
      exact isVisited_eq_false_iff.2 (hasked path hpath).1
    · intro other hanswers
      refine ExtractCall.step_withFrontend fun path hpath => ?_
      exact hanswers ⟨path, call.frontend.parse path⟩ (List.mem_map_of_mem hpath)

end Survey

end Runs

section Linked

/-- A directory with a header and a link to it. -/
def linkedTree : FileTree where
  working := ["work"]
  entries :=
    [(["work"], .directory), (["work", "a.h"], .file ByteArray.empty),
      (["work", "alias.h"], .link ⟨"a.h"⟩)]

/-- What the headers include: one goes back to the other through the link, and then on to a
header that is not there. -/
def linkedIncludes : List (String × List Path) :=
  [("a.h", [⟨"b.h"⟩]), ("alias.h", [⟨"b.h"⟩]), ("b.h", [⟨"alias.h"⟩, ⟨"gone.h"⟩])]

/-- A frontend whose units have the path that was asked for. -/
def linkedFrontend : Frontend where
  parse path :=
    match linkedIncludes.lookup path.text with
    | some includes => .ok { path := path, includes := includes }
    | none => .error "no such file"
  names := linkedIncludes.flatMap Prod.snd
  includes_mem_names := by
    intro path unit hparse included hmem
    split at hparse
    · next includes hlookup =>
        obtain rfl := Except.ok.inj hparse
        obtain ⟨_, _, hentry, -⟩ := List.lookup_eq_some_iff.1 hlookup
        refine List.mem_flatMap.2 ⟨(path.text, includes), ?_, hmem⟩
        simp [hentry]
    · cases hparse

theorem linkedFrontend_keepsKeys (files : FileTree) : linkedFrontend.KeepsKeys files := by
  intro path unit hparse
  simp only [linkedFrontend] at hparse
  split at hparse
  · obtain rfl := Except.ok.inj hparse
    rfl
  · cases hparse

/-- A call that fails, the same header through the link, and a header that is never there. -/
def linkedCalls : List ExtractCall :=
  [⟨linkedTree, linkedFrontend, ⟨"a.h"⟩, []⟩, ⟨linkedTree, linkedFrontend, ⟨"alias.h"⟩, []⟩,
    ⟨linkedTree, linkedFrontend, ⟨"missing.h"⟩, []⟩,
    ⟨linkedTree, linkedFrontend, ⟨"./missing.h"⟩, []⟩]

/-- A header that never comes is asked for again, and no other. -/
theorem parsed_at_most_once_linked :
    ((Survey.exchanges { settings := {} } linkedCalls).map fun exchange =>
        (exchange.path.text, exchange.answer.isOk)) =
      [("a.h", true), ("b.h", true), ("gone.h", false), ("missing.h", false),
        ("./missing.h", false)] ∧
      ∀ key, (Survey.exchanges { settings := {} } linkedCalls).countP
        (Exchange.gives linkedTree key) ≤ 1 := by
  refine ⟨by decide +kernel, ?_⟩
  refine (Survey.parsed_at_most_once rfl fun call hcall => ?_).1
  simp only [linkedCalls, List.mem_cons, List.not_mem_nil, or_false] at hcall
  rcases hcall with rfl | rfl | rfl | rfl <;>
    exact ⟨rfl, linkedFrontend_keepsKeys linkedTree⟩

end Linked

end HeaderBindings
