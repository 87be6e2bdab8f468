/-
# JumpList.Proofs.CommandLine.Arguments — which command lines are understood.

A command line is a row of parts (`Part`), each of which names the application or makes a request.  It is
understood if it consists of parts and one of them, but no second one, makes a request.  Of the names the
last counts.

A command line that is not understood has a place where reading stops: parts that can be read stand in
front of it, and it starts with an option that lacks its value, with a word that is no option, or with a
second request (`Stops`).  If there is no such place, it is the request that is missing.

Reading goes over parts one by one (`scan_append`), and every command line is split in one of these ways
(`exists_reading`).  So the ways tell what comes of it, and why (`ofWords_eq_iff_parts`).
-/
import JumpList.CommandLine.Arguments

namespace JumpList.CommandLine

/-! ## Parts of a command line -/

/-- A part of a command line. -/
inductive Part where
  | name (app : String)
  | delete
  | userTasks (file : String)
  /-- A word that stands for itself, for it does not look like an option. -/
  | update (file : String) (plain : isOption file = false)

namespace Part

/-- The words of a part.  A value can be any word, even one that looks like an option. -/
def words : Part → List String
  | .name app => ["--app-name", app]
  | .delete => ["--delete"]
  | .userTasks file => ["--user-tasks", file]
  | .update file _ => [file]

/-- The name that a part gives the application, if it does. -/
def name? : Part → Option String
  | .name app => some app
  | .delete | .userTasks _ | .update _ _ => none

/-- The request that a part makes, if it does. -/
def request? : Part → Option Request
  | .name _ => none
  | .delete => some .delete
  | .userTasks file => some (.userTasks (Path.ofString file))
  | .update file _ => some (.update (Path.ofString file))

end Part

/-- The words of parts, in order. -/
def wordsOf (parts : List Part) : List String := parts.flatMap Part.words

/-- The names that parts give the application, in order. -/
def namesOf (parts : List Part) : List String := parts.filterMap Part.name?

/-- The requests that parts make, in order. -/
def requestsOf (parts : List Part) : List Request := parts.filterMap Part.request?

@[simp] theorem wordsOf_cons (part : Part) (parts : List Part) :
    wordsOf (part :: parts) = part.words ++ wordsOf parts := rfl

@[simp] theorem namesOf_cons (part : Part) (parts : List Part) :
    namesOf (part :: parts) = part.name?.toList ++ namesOf parts := by
  cases h : part.name? <;> simp [namesOf, h]

@[simp] theorem requestsOf_cons (part : Part) (parts : List Part) :
    requestsOf (part :: parts) = part.request?.toList ++ requestsOf parts := by
  cases h : part.request? <;> simp [requestsOf, h]

/-- A part that makes no request is a name. -/
theorem Part.exists_name_of_request?_eq_none {part : Part} (h : part.request? = none) :
    ∃ app, part = .name app := by
  cases part with
  | name app => exact ⟨app, rfl⟩
  | delete | userTasks | update => cases h

theorem Part.name?_of_request?_eq_some {part : Part} {r : Request} (h : part.request? = some r) :
    part.name? = none := by
  cases part with
  | name => cases h
  | delete | userTasks | update => rfl

/-- The words that are options. -/
def options : List String := ["--app-name", "--delete", "--user-tasks"]

/-- Reading stops at these words, for this reason, if these requests were read before. -/
inductive Stops (earlier : List Request) : List String → UsageError → Prop
  | missingName : Stops earlier ["--app-name"] .missingName
  | missingFile : Stops earlier ["--user-tasks"] .missingFile
  | unknownOption {word : String} (rest : List String) :
      isOption word → word ∉ options → Stops earlier (word :: rest) (.unknownOption word)
  | secondRequest {part : Part} (rest : List String) :
      earlier ≠ [] → part.request?.isSome → Stops earlier (part.words ++ rest) .secondRequest

/-- What there is to a command line, and what comes of reading it. -/
inductive Reading : List String → Except UsageError Arguments → Prop
  | understood {parts : List Part} {request : Request} :
      requestsOf parts = [request] →
      Reading (wordsOf parts) (.ok ⟨(namesOf parts).getLast?, request⟩)
  | stopped {before : List Part} {rest : List String} {e : UsageError} :
      (requestsOf before).length ≤ 1 → Stops (requestsOf before) rest e →
      Reading (wordsOf before ++ rest) (.error e)
  | idle {parts : List Part} :
      requestsOf parts = [] → Reading (wordsOf parts) (.error .noRequest)

/-! ## Reading parts -/

theorem not_mem_options {word : String} (h : isOption word = false) : word ∉ options := by
  rintro hmem
  simp only [options, List.mem_cons, List.not_mem_nil, or_false] at hmem
  rcases hmem with rfl | rfl | rfl <;> revert h <;> decide

/-- A word that is not one of the options decides by itself. -/
theorem scan_cons_of_not_mem {word : String} (h : word ∉ options) (app : Option String)
    (request : Option Request) (rest : List String) :
    scan app request (word :: rest) =
      if isOption word then .error (.unknownOption word)
      else if request.isSome then .error .secondRequest
      else scan app (some (.update (Path.ofString word))) rest := by
  simp only [options, List.mem_cons, List.not_mem_nil, or_false, not_or] at h
  obtain ⟨hname, hdelete, htasks⟩ := h
  rw [scan]
  all_goals simp_all

/-- A name takes the place of the one before. -/
theorem scan_name (name : String) (app : Option String) (request : Option Request)
    (rest : List String) :
    scan app request ((Part.name name).words ++ rest) = scan (some name) request rest := rfl

/-- A request must be the first. -/
theorem scan_request {part : Part} {r : Request} (h : part.request? = some r) (app : Option String)
    (request : Option Request) (rest : List String) :
    scan app request (part.words ++ rest) =
      if request.isSome then .error .secondRequest else scan app (some r) rest := by
  cases part with
  | name name => cases h
  | delete =>
    cases h
    rfl
  | userTasks file =>
    cases h
    rfl
  | update file plain =>
    cases h
    have hword := scan_cons_of_not_mem (not_mem_options plain) app request rest
    rw [plain] at hword
    exact hword

/-- Parts are read one by one, as long as there is one request at most. -/
theorem scan_append (parts : List Part) (rest : List String) {app : Option String}
    {request : Option Request} (h : (request.toList ++ requestsOf parts).length ≤ 1) :
    scan app request (wordsOf parts ++ rest) =
      scan ((namesOf parts).getLast?.or app) (request.or (requestsOf parts).head?) rest := by
  -- Every part changes what was read before, so the induction is for any name and request.
  induction parts generalizing app request with
  | nil => simp [wordsOf, namesOf, requestsOf]
  | cons part parts ih =>
    rw [wordsOf_cons, List.append_assoc]
    cases hr : part.request? with
    | none =>
      obtain ⟨name, rfl⟩ := Part.exists_name_of_request?_eq_none hr
      have hnames : (namesOf (.name name :: parts)).getLast?.or app =
          (namesOf parts).getLast?.or (some name) := by
        simp [Part.name?, List.getLast?_cons]
      rw [requestsOf_cons, hr, Option.toList_none, List.nil_append] at h ⊢
      rw [hnames, scan_name, ih h]
    | some r =>
      rw [requestsOf_cons, hr, Option.toList_some, List.length_append, List.length_append,
        List.length_singleton] at h
      have hfirst : request = none := by
        cases request with
        | none => rfl
        | some _ =>
          rw [Option.toList_some, List.length_singleton] at h
          omega
      subst hfirst
      have hlast : requestsOf parts = [] := List.eq_nil_of_length_eq_zero (by omega)
      rw [scan_request hr, Option.isSome_none, if_neg Bool.false_ne_true, ih (by simp [hlast])]
      simp [hr, Part.name?_of_request?_eq_some hr]

/-- Parts with one request at most are read to the end. -/
theorem scan_wordsOf {parts : List Part} (h : (requestsOf parts).length ≤ 1) :
    scan none none (wordsOf parts) = scan (namesOf parts).getLast? (requestsOf parts).head? [] := by
  have hscan : scan none none (wordsOf parts ++ []) = _ := scan_append parts [] (by simpa using h)
  rw [List.append_nil, Option.or_none, Option.none_or] at hscan
  exact hscan

/-- Reading stops where it should, and for the reason that it should. -/
theorem scan_of_stops {request : Option Request} {rest : List String} {e : UsageError}
    (h : Stops request.toList rest e) (app : Option String) : scan app request rest = .error e := by
  cases h with
  | missingName => rfl
  | missingFile => rfl
  | unknownOption rest hoption hword => rw [scan_cons_of_not_mem hword, if_pos hoption]
  | secondRequest rest hearlier hpart =>
    obtain ⟨r, hr⟩ := Option.isSome_iff_exists.mp hpart
    have hsome : request.isSome := by
      cases request with
      | none => exact absurd rfl hearlier
      | some _ => rfl
    rw [scan_request hr, if_pos hsome]

/-- What comes of reading is what there is to the command line. -/
theorem Reading.ofWords_eq {words : List String} {result : Except UsageError Arguments}
    (h : Reading words result) : Arguments.ofWords words = result := by
  unfold Arguments.ofWords
  cases h with
  | @understood parts request hone =>
    rw [scan_wordsOf (by simp [hone]), hone]
    rfl
  | @stopped before rest e hle hstops =>
    rw [scan_append before rest (by simpa using hle)]
    refine scan_of_stops ?_ _
    rcases hbefore : requestsOf before with _ | ⟨r, _ | ⟨r', rs⟩⟩
    · simpa [hbefore] using hstops
    · simpa [hbefore] using hstops
    · simp [hbefore] at hle
  | @idle parts hnone =>
    rw [scan_wordsOf (by simp [hnone]), hnone]
    rfl

/-! ## Every command line -/

/-- Words are parts up to the end, or up to a place where reading stops.  There is one request at most,
the one that was read before among them. -/
def Splits (request : Option Request) (words : List String) : Prop :=
  ∃ parts rest, words = wordsOf parts ++ rest ∧ (request.toList ++ requestsOf parts).length ≤ 1 ∧
    (rest = [] ∨ ∃ e, Stops (request.toList ++ requestsOf parts) rest e)

namespace Splits

variable {request : Option Request} {words : List String}

theorem nil (request : Option Request) : Splits request [] := by
  refine ⟨[], [], rfl, ?_, .inl rfl⟩
  cases request <;> simp [requestsOf]

theorem of_stops {e : UsageError} (h : Stops request.toList words e) : Splits request words := by
  refine ⟨[], words, rfl, ?_, .inr ⟨e, by simpa [requestsOf] using h⟩⟩
  cases request <;> simp [requestsOf]

theorem cons_name (app : String) (h : Splits request words) :
    Splits request ((Part.name app).words ++ words) := by
  obtain ⟨parts, rest, rfl, hone, hrest⟩ := h
  exact ⟨.name app :: parts, rest, by simp, hone, hrest⟩

/-- The first request is one of the parts, and a second one is where reading stops. -/
theorem cons_request (part : Part) {r : Request} (hr : part.request? = some r)
    (h : request = none → Splits (some r) words) : Splits request (part.words ++ words) := by
  cases request with
  | some earlier => exact .of_stops (.secondRequest words (by simp) (by simp [hr]))
  | none =>
    obtain ⟨parts, rest, rfl, hone, hrest⟩ := h rfl
    have hrequests : requestsOf (part :: parts) = (some r).toList ++ requestsOf parts := by
      rw [requestsOf_cons, hr]
    refine ⟨part :: parts, rest, by simp, ?_⟩
    rw [hrequests]
    exact ⟨hone, hrest⟩

end Splits

/-- All words can be split so.  The cases are those of reading, whatever name was read before. -/
theorem splits (app : Option String) (request : Option Request) (words : List String) :
    Splits request words := by
  fun_induction scan app request words with
  | case1 app request => exact .nil _
  | case2 app => exact .nil _
  | case3 app request => exact .of_stops .missingName
  | case4 app request name words ih => exact ih.cons_name name
  | case5 app request => exact .of_stops .missingFile
  | case6 app request file words h =>
    exact .cons_request (.userTasks file) rfl fun hnone => by simp [hnone] at h
  | case7 app request file words h ih =>
    exact .cons_request (.userTasks file) rfl fun _ => ih
  | case8 app request words h =>
    exact .cons_request .delete rfl fun hnone => by simp [hnone] at h
  | case9 app request words h ih => exact .cons_request .delete rfl fun _ => ih
  | case10 app request word words hname hname' htasks htasks' hdelete hoption =>
    have hword : word ∉ options := by
      simp only [options, List.mem_cons, List.not_mem_nil, or_false]
      rintro (rfl | rfl | rfl)
      · cases words with
        | nil => exact hname rfl rfl
        | cons name words => exact hname' name words rfl rfl
      · exact hdelete rfl
      · cases words with
        | nil => exact htasks rfl rfl
        | cons file words => exact htasks' file words rfl rfl
    exact .of_stops (.unknownOption words hoption hword)
  | case11 app request word words _ _ _ _ _ hplain h =>
    have hplain : isOption word = false := by simpa using hplain
    exact .cons_request (.update word hplain) rfl fun hnone => by simp [hnone] at h
  | case12 app request word words _ _ _ _ _ hplain h ih =>
    have hplain : isOption word = false := by simpa using hplain
    exact .cons_request (.update word hplain) rfl fun _ => ih

/-- There is something to every command line. -/
theorem exists_reading (words : List String) : ∃ result, Reading words result := by
  obtain ⟨parts, rest, rfl, hone, rfl | ⟨e, hstops⟩⟩ := splits none none words
  · rw [List.append_nil]
    rcases hrequests : requestsOf parts with _ | ⟨r, _ | ⟨r', rs⟩⟩
    · exact ⟨_, .idle hrequests⟩
    · exact ⟨_, .understood hrequests⟩
    · simp [hrequests] at hone
  · exact ⟨.error e, .stopped hone hstops⟩

/-- What comes of reading a command line is what there is to it. -/
theorem ofWords_eq_iff_reading {words : List String} {result : Except UsageError Arguments} :
    Arguments.ofWords words = result ↔ Reading words result := by
  constructor
  · rintro rfl
    obtain ⟨result, h⟩ := exists_reading words
    rwa [h.ofWords_eq]
  · exact Reading.ofWords_eq

/-- No other error says that there is no request. -/
theorem UsageError.message_eq_iff {e : UsageError} :
    e.message = UsageError.noRequest.message ↔ e = .noRequest := by
  constructor
  · intro h
    cases e with
    | noRequest => rfl
    | unknownOption word =>
      have hfront : "unknown option '".toList <+: "no request given".toList := by
        have htext : "unknown option '" ++ word ++ "'" = "no request given" := h
        rw [← htext, String.toList_append, String.toList_append, List.append_assoc]
        exact List.prefix_append _ _
      exact absurd hfront (by decide)
    | missingName | missingFile | secondRequest => exact absurd h (by decide)
  · rintro rfl
    rfl

/-- A command line is understood exactly if it consists of parts, one of which makes a request; it says
what that part says, and the last name counts.  Otherwise the reason is the one why reading stops, after
parts with one request at most, and if it does not stop the reason is that there is no request: then, and
only then, the error says so. -/
theorem ofWords_eq_iff_parts (words : List String) :
    (∀ arguments, Arguments.ofWords words = .ok arguments ↔
      ∃ parts, words = wordsOf parts ∧ requestsOf parts = [arguments.request] ∧
        arguments.appName = (namesOf parts).getLast?) ∧
    (∀ e, Arguments.ofWords words = .error e ↔
      (∃ before rest, words = wordsOf before ++ rest ∧ (requestsOf before).length ≤ 1 ∧
        Stops (requestsOf before) rest e) ∨
      e = .noRequest ∧ ∃ parts, words = wordsOf parts ∧ requestsOf parts = []) ∧
    ((∃ e, Arguments.ofWords words = .error e ∧ e.message = "no request given") ↔
      ∃ parts, words = wordsOf parts ∧ requestsOf parts = []) := by
  refine ⟨fun arguments => ?_, fun e => ?_, ?_⟩
  · rw [ofWords_eq_iff_reading]
    constructor
    · intro h
      cases h with
      | understood hone => exact ⟨_, rfl, hone, rfl⟩
    · obtain ⟨name, request⟩ := arguments
      rintro ⟨parts, rfl, hone, rfl⟩
      exact .understood hone
  · rw [ofWords_eq_iff_reading]
    constructor
    · intro h
      cases h with
      | stopped hle hstops => exact .inl ⟨_, _, rfl, hle, hstops⟩
      | idle hnone => exact .inr ⟨rfl, _, rfl, hnone⟩
    · rintro (⟨before, rest, rfl, hle, hstops⟩ | ⟨rfl, parts, rfl, hnone⟩)
      · exact .stopped hle hstops
      · exact .idle hnone
  · constructor
    · rintro ⟨e, h, hmessage⟩
      rw [UsageError.message_eq_iff.mp hmessage, ofWords_eq_iff_reading] at h
      cases h with
      | stopped _ hstops => cases hstops
      | idle hnone => exact ⟨_, rfl, hnone⟩
    · rintro ⟨parts, rfl, hnone⟩
      exact ⟨_, (Reading.idle hnone).ofWords_eq, rfl⟩

/-- Options take the word behind them, whatever it is, and the last name counts. -/
example :
    Arguments.ofWords ["--app-name", "--delete", "--user-tasks", "--app-name", "--app-name", ""] =
      .ok ⟨some "", .userTasks (Path.ofString "--app-name")⟩ := rfl

/-- A file that is missing is reported before the second request that it would be for. -/
example : Arguments.ofWords ["a.json", "--user-tasks"] = .error .missingFile := rfl

end JumpList.CommandLine
