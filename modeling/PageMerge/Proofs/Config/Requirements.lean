import Mathlib.Control.Monad.Basic
import PageMerge.Config.Settings
import PageMerge.Proofs.Failure

/-!
# What a configuration must be like

A configuration has to meet a list of requirements, each of which has a problem of its own. They are
judged in their order: the problem that is reported is that of the first requirement that is not
met, whatever the later ones are like. Only when all of them are met is the delay looked at.

The requirements speak of the texts of the file without the blanks around them, and do not refer to
the checks; that a check judges some of the requirements is said check by check (`Judges`), and the
checks are put together by the rule for steps that follow each other.

## Main definitions

* `Requirement`, `requirements`: what a configuration must be like, and what is reported otherwise
* `FirstUnmet`: the problem of the first requirement that is not met
* `Judges`: a check judges requirements in their order
* `SettingsOf`: the settings that hold the trimmed texts of a file

## Main results

* `Judges.bind`: checks that follow each other
* `validate_judges`: all requirements are judged before the delay
* `validate_reports_first`: which configurations can be used, and what is reported otherwise
-/

namespace PageMerge.Config

open PageMerge.Files (FileTree)
open PageMerge.Template (Marks MarksError)
open PageMerge.Text (trim)

/-! ### Requirements -/

/-- A condition on a configuration, with the problem that is reported if it is not met. -/
structure Requirement where
  Met : Prop
  problem : ConfigProblem

/-- The problem is that of the first requirement that is not met. -/
inductive FirstUnmet : List Requirement → ConfigProblem → Prop where
  | here {requirement : Requirement} {rest : List Requirement} (h : ¬requirement.Met) :
    FirstUnmet (requirement :: rest) requirement.problem
  | later {requirement : Requirement} {rest : List Requirement} {problem : ConfigProblem}
    (h : requirement.Met) (hrest : FirstUnmet rest problem) :
    FirstUnmet (requirement :: rest) problem

/-- A text of one or more decimal digits. -/
def Digits (text : String) : Prop := text ≠ "" ∧ ∀ c ∈ text.toList, '0' ≤ c ∧ c ≤ '9'

/-- A character that can be a mark: no letter or digit, no blank, no punctuation of names. -/
def CanMark (c : Char) : Prop :=
  Text.isAlphanumeric c = false ∧ Text.isBlank c = false ∧ c ∉ ['.', '-', '_']

/-- The first character of a text. -/
def firstChar (text : String) : Char := text.toList.headD ' '

/-- What the two texts must be like to be marks. Each of them has to be a single character before it
is asked whether it can be a mark. -/
def marksRequirements (placeholder escape : String) : List Requirement :=
  [⟨placeholder ≠ "", .marks .placeholderEmpty⟩,
    ⟨placeholder.length = 1, .marks (.placeholderNotSingle placeholder)⟩,
    ⟨escape ≠ "", .marks .escapeEmpty⟩,
    ⟨escape.length = 1, .marks (.escapeNotSingle escape)⟩,
    ⟨∀ c ∈ placeholder.toList, CanMark c, .marks (.placeholderNotMark (firstChar placeholder))⟩,
    ⟨∀ c ∈ escape.toList, CanMark c, .marks (.escapeNotMark (firstChar escape))⟩,
    ⟨placeholder ≠ escape, .marks .equal⟩]

/-- What a configuration must be like, in the order in which it is judged. -/
def requirements (file : ConfigFile) (tree : FileTree) (account : Account) : List Requirement :=
  let url := trim file.confluence.baseUrl
  let templateId := trim file.confluence.templateId
  let parent := trim file.confluence.uploadParentPageId
  let delimiter := trim file.data.delimiter
  let dataCsv := trim file.data.dataCsv
  List.flatten [
    [⟨url ≠ "", .baseUrlEmpty⟩,
      ⟨url.toList.getLast? = some '/', .baseUrlNoTrailingSlash url⟩],
    [⟨templateId ≠ "", .templateIdEmpty⟩, ⟨Digits templateId, .templateIdNotNumeric templateId⟩],
    marksRequirements (trim file.confluence.placeholderCharacter)
      (trim file.confluence.escapeCharacter),
    [⟨trim file.confluence.uploadSpace ≠ "", .uploadSpaceEmpty⟩],
    [⟨parent = "" ∨ Digits parent, .parentPageIdNotNumeric parent⟩],
    [⟨delimiter ≠ "", .delimiterEmpty⟩,
      ⟨(Text.Utf8.encode delimiter).length = 1, .delimiterNotSingleChar delimiter⟩],
    [⟨dataCsv ≠ "", .dataCsvPathEmpty⟩,
      ⟨tree.isFile ⟨dataCsv⟩ = true, .dataCsvMissing dataCsv⟩],
    [⟨trim file.data.idColumnHeader ≠ "", .idColumnHeaderEmpty⟩],
    [⟨trim account.username ≠ "", .usernameEmpty⟩],
    [⟨trim account.token ≠ "", .tokenEmpty⟩],
    [⟨1 ≤ file.behavior.uploadWorkers, .uploadWorkersZero⟩]]

section FirstUnmet

variable {requirements rest : List Requirement} {problem other : ConfigProblem}

/-- Either all requirements are met, or there is a first one that is not. -/
theorem forall_met_or_firstUnmet (requirements : List Requirement) :
    (∀ requirement ∈ requirements, requirement.Met) ∨
      ∃ problem, FirstUnmet requirements problem := by
  induction requirements with
  | nil => exact .inl (by simp)
  | cons first rest ih =>
    by_cases hfirst : first.Met
    · rcases ih with hmet | ⟨problem, hunmet⟩
      · exact .inl (List.forall_mem_cons.mpr ⟨hfirst, hmet⟩)
      · exact .inr ⟨problem, .later hfirst hunmet⟩
    · exact .inr ⟨_, .here hfirst⟩

theorem FirstUnmet.not_forall_met (h : FirstUnmet requirements problem) :
    ¬∀ requirement ∈ requirements, requirement.Met := by
  induction h with
  | here h => exact fun hmet => h (hmet _ (List.mem_cons_self ..))
  | later _ _ ih => exact fun hmet => ih (List.forall_mem_cons.mp hmet).2

/-- The first requirement that is not met is among the first of two lists, or comes after all of
them. -/
theorem FirstUnmet.append_cases (h : FirstUnmet (requirements ++ rest) problem) :
    FirstUnmet requirements problem ∨
      (∀ requirement ∈ requirements, requirement.Met) ∧ FirstUnmet rest problem := by
  induction requirements with
  | nil => exact .inr ⟨by simp, h⟩
  | cons first others ih =>
    rw [List.cons_append] at h
    cases h with
    | here h => exact .inl (.here h)
    | later h hrest =>
      rcases ih hrest with hunmet | ⟨hmet, hunmet⟩
      · exact .inl (.later h hunmet)
      · exact .inr ⟨List.forall_mem_cons.mpr ⟨h, hmet⟩, hunmet⟩

end FirstUnmet

/-! ### Checks -/

/-- A check judges requirements in their order: if one is not met, the first such is reported, and
otherwise the result is as it should be. -/
structure Judges {α : Type} (requirements : List Requirement) (result : Except Failure α)
    (Outcome : Except Failure α → Prop) : Prop where
  met : (∀ requirement ∈ requirements, requirement.Met) → Outcome result
  unmet : ∀ problem, FirstUnmet requirements problem → result = refuse problem

/-- A check succeeds, with a value of some kind. -/
def Gives {α : Type} (Value : α → Prop) (result : Except Failure α) : Prop :=
  ∃ a, result = .ok a ∧ Value a

section Judges

variable {α β : Type} {requirements rest : List Requirement} {first : Except Failure α}
  {next : α → Except Failure β} {Value : α → Prop} {Outcome : Except Failure β → Prop}
  {problem : ConfigProblem}

/-- Without requirements there is nothing to judge. -/
theorem judges_nil {result : Except Failure β} (h : Outcome result) :
    Judges [] result Outcome where
  met _ := h
  unmet _ hunmet := nomatch hunmet

/-- A requirement that is judged before others. -/
theorem Judges.cons {requirement : Requirement} {result : Except Failure β}
    (hunmet : ¬requirement.Met → result = refuse requirement.problem)
    (hmet : requirement.Met → Judges rest result Outcome) :
    Judges (requirement :: rest) result Outcome where
  met h := (hmet (List.forall_mem_cons.mp h).1).met (List.forall_mem_cons.mp h).2
  unmet problem h := by
    cases h with
    | here h => exact hunmet h
    | later h hrest => exact (hmet h).unmet problem hrest

/-- A single requirement, on which it hangs whether a value is given. -/
theorem judges_ite {Met Holds : Prop} [Decidable Holds] {a : α} (hmet : Holds ↔ Met)
    (ha : Value a) :
    Judges [⟨Met, problem⟩] (if Holds then .ok a else refuse problem) (Gives Value) := by
  refine .cons (fun hunmet => if_neg (mt hmet.mp hunmet)) fun h => judges_nil ?_
  exact ⟨a, if_pos (hmet.mpr h), ha⟩

/-- Of two checks that follow each other the second one judges later requirements, and can rely on
the value that the first one gives. -/
theorem Judges.bind (hfirst : Judges requirements first (Gives Value))
    (hnext : ∀ a, Value a → Judges rest (next a) Outcome) :
    Judges (requirements ++ rest) (first >>= next) Outcome where
  met h := by
    obtain ⟨hrequirements, hrest⟩ := List.forall_mem_append.mp h
    obtain ⟨a, rfl, ha⟩ := hfirst.met hrequirements
    exact (hnext a ha).met hrest
  unmet problem h := by
    rcases h.append_cases with hunmet | ⟨hmet, hunmet⟩
    · rw [hfirst.unmet problem hunmet]
      rfl
    · obtain ⟨a, rfl, ha⟩ := hfirst.met hmet
      exact (hnext a ha).unmet problem hunmet

/-- All requirements are met exactly if none is the first one that is not. -/
theorem Judges.reports_iff {result : Except Failure β} (h : Judges requirements result Outcome)
    (haccepted : ∀ problem, ¬Outcome (refuse problem)) (problem : ConfigProblem) :
    result = refuse problem ↔ FirstUnmet requirements problem := by
  refine ⟨fun hresult => ?_, h.unmet problem⟩
  rcases forall_met_or_firstUnmet requirements with hmet | ⟨other, hother⟩
  · exact absurd (hresult ▸ h.met hmet) (haccepted problem)
  · have heq := (h.unmet other hother).symm.trans hresult
    rw [refuse, refuse, Except.error.injEq, Failure.refused.injEq] at heq
    exact heq ▸ hother

end Judges

/-! ### Single checks -/

section Checks

/-- A text that is needed is given without the blanks around it. -/
theorem judges_requireText (text : String) (problem : ConfigProblem) :
    Judges [⟨trim text ≠ "", problem⟩] (requireText text problem) (Gives (· = trim text)) := by
  rw [requireText, ← ite_not]
  exact judges_ite (not_congr String.isEmpty_iff) rfl

theorem isNumeric_iff (text : String) : isNumeric text = true ↔ Digits text := by
  simp [isNumeric, Digits, Char.isDigit, UInt32.le_iff_toNat_le, Char.le_def]

theorem judges_checkBaseUrl (text : String) :
    Judges [⟨trim text ≠ "", .baseUrlEmpty⟩,
        ⟨(trim text).toList.getLast? = some '/', .baseUrlNoTrailingSlash (trim text)⟩]
      (checkBaseUrl text) (Gives (· = trim text)) := by
  refine (judges_requireText text .baseUrlEmpty).bind ?_
  rintro _ rfl
  have hslash : (trim text).endsWith "/" = true ↔ (trim text).toList.getLast? = some '/' := by
    rw [String.endsWith, String.Slice.endsWith_string_iff, String.copy_toSlice]
    exact List.singleton_suffix_iff_getLast?_eq_some
  exact judges_ite hslash rfl

theorem judges_checkTemplateId (text : String) :
    Judges [⟨trim text ≠ "", .templateIdEmpty⟩,
        ⟨Digits (trim text), .templateIdNotNumeric (trim text)⟩]
      (checkTemplateId text) (Gives (· = trim text)) := by
  refine (judges_requireText text .templateIdEmpty).bind ?_
  rintro _ rfl
  exact judges_ite (isNumeric_iff _) rfl

theorem judges_checkParent (text : String) :
    Judges [⟨trim text = "" ∨ Digits (trim text), .parentPageIdNotNumeric (trim text)⟩]
      (checkParent text) (Gives (· = if trim text = "" then none else some (trim text))) := by
  rw [checkParent]
  by_cases hempty : trim text = ""
  · rw [if_pos (String.isEmpty_iff.mpr hempty), if_pos hempty]
    exact .cons (fun h => absurd (.inl hempty) h) fun _ => judges_nil ⟨none, rfl, rfl⟩
  · rw [if_neg (mt String.isEmpty_iff.mp hempty), if_neg hempty, or_iff_right hempty]
    exact judges_ite (isNumeric_iff _) rfl

theorem judges_checkDelimiter (text : String) :
    Judges [⟨trim text ≠ "", .delimiterEmpty⟩,
        ⟨(Text.Utf8.encode (trim text)).length = 1, .delimiterNotSingleChar (trim text)⟩]
      (checkDelimiter text) (Gives (Text.Utf8.encode (trim text) = [·])) := by
  refine (judges_requireText text .delimiterEmpty).bind ?_
  rintro _ rfl
  refine .cons (fun h => ?_) fun h => ?_
  · split
    · rename_i byte hbyte
      exact absurd (congrArg List.length hbyte) h
    · rfl
  · obtain ⟨byte, hbyte⟩ := List.length_eq_one_iff.mp h
    exact judges_nil ⟨byte, by rw [hbyte], hbyte⟩

/-- The first character of a text is the only one. -/
theorem firstChar_singleton (c : Char) : firstChar (String.singleton c) = c := by
  rw [firstChar, String.toList_singleton]
  rfl

theorem isMark_iff (c : Char) : Template.isMark c = true ↔ CanMark c := by
  simp [Template.isMark, Template.isNameSign, CanMark, and_assoc]

/-- A text that is to be a mark must be a single character. -/
theorem judges_single (text : String) (empty : MarksError) (notSingle : String → MarksError) :
    Judges [⟨trim text ≠ "", .marks empty⟩,
        ⟨(trim text).length = 1, .marks (notSingle (trim text))⟩]
      ((Marks.single text empty notSingle).mapError fun cause => .refused (.marks cause))
      (Gives (trim text = String.singleton ·)) := by
  rw [Marks.single, ← String.length_toList, ne_eq, ← String.toList_eq_nil_iff]
  generalize hchars : (trim text).toList = chars
  match chars with
  | [] => exact .cons (fun _ => rfl) fun h => absurd rfl h
  | [c] =>
    refine .cons (fun h => absurd (by simp) h) fun _ =>
      .cons (fun h => absurd rfl h) fun _ => judges_nil ⟨c, rfl, ?_⟩
    exact String.toList_inj.mp (hchars.trans (by simp))
  | c :: d :: rest =>
    refine .cons (fun h => absurd (by simp) h) fun _ => .cons (fun _ => rfl) fun h => ?_
    simp at h

/-- Two characters are marks if each of them can be one and they are different. -/
theorem judges_ofChars (placeholder escape : Char) :
    Judges [⟨CanMark placeholder, .marks (.placeholderNotMark placeholder)⟩,
        ⟨CanMark escape, .marks (.escapeNotMark escape)⟩, ⟨placeholder ≠ escape, .marks .equal⟩]
      ((Marks.ofChars placeholder escape).mapError fun cause => .refused (.marks cause))
      (Gives fun marks => placeholder = marks.placeholder ∧ escape = marks.escape) := by
  rw [Marks.ofChars]
  refine .cons (fun h => ?_) fun hplaceholder => .cons (fun h => ?_) fun hescape =>
    .cons (fun h => ?_) fun hdistinct => judges_nil ?_
  · rw [dif_neg (mt (isMark_iff _).mp h)]
    rfl
  · rw [dif_pos ((isMark_iff _).mpr hplaceholder), dif_neg (mt (isMark_iff _).mp h)]
    rfl
  · rw [dif_pos ((isMark_iff _).mpr hplaceholder), dif_pos ((isMark_iff _).mpr hescape), dif_neg h]
    rfl
  · rw [dif_pos ((isMark_iff _).mpr hplaceholder), dif_pos ((isMark_iff _).mpr hescape),
      dif_pos hdistinct]
    exact ⟨_, rfl, rfl, rfl⟩

theorem judges_checkMarks (placeholder escape : String) :
    Judges (marksRequirements (trim placeholder) (trim escape)) (checkMarks placeholder escape)
      (Gives fun marks => trim placeholder = String.singleton marks.placeholder ∧
        trim escape = String.singleton marks.escape) := by
  rw [checkMarks, Marks.ofTexts, mapError_bind]
  refine (judges_single placeholder _ _).bind fun c hc => ?_
  rw [mapError_bind]
  refine (judges_single escape _ _).bind fun d hd => ?_
  have hchars := judges_ofChars c d
  simpa [hc, hd, firstChar_singleton] using hchars

theorem judges_checkDataCsv (tree : FileTree) (text : String) :
    Judges [⟨trim text ≠ "", .dataCsvPathEmpty⟩,
        ⟨tree.isFile ⟨trim text⟩ = true, .dataCsvMissing (trim text)⟩]
      (checkDataCsv tree text) (Gives (· = ⟨trim text⟩)) := by
  refine (judges_requireText text .dataCsvPathEmpty).bind ?_
  rintro _ rfl
  exact judges_ite Iff.rfl rfl

theorem judges_checkWorkers (count : Nat) :
    Judges [⟨1 ≤ count, .uploadWorkersZero⟩] (checkWorkers count) (Gives (· = count)) := by
  rw [checkWorkers, ← ite_not]
  exact judges_ite Nat.one_le_iff_ne_zero.symm rfl

end Checks

/-! ### Settings -/

/-- The settings hold the trimmed texts of the file and of the account, and its other values as they
are. A parent page whose text is blank is none, and a time limit has a second at least. -/
structure SettingsOf (file : ConfigFile) (account : Account) (settings : Settings) : Prop where
  baseUrl : settings.baseUrl = trim file.confluence.baseUrl
  templateId : settings.templateId = trim file.confluence.templateId
  placeholder : String.singleton settings.marks.placeholder =
    trim file.confluence.placeholderCharacter
  escape : String.singleton settings.marks.escape = trim file.confluence.escapeCharacter
  uploadSpace : settings.uploadSpace = trim file.confluence.uploadSpace
  uploadParentPageId : settings.uploadParentPageId =
    if trim file.confluence.uploadParentPageId = "" then none
    else some (trim file.confluence.uploadParentPageId)
  delay : Delay.ofSeconds? file.confluence.delaySeconds = some settings.delay
  timeoutSeconds : settings.timeoutSeconds = max file.confluence.timeoutSeconds 1
  overwriteExistingArticles :
    settings.overwriteExistingArticles = file.behavior.overwriteExistingArticles
  dumpTemplate : settings.dumpTemplate = file.behavior.dumpTemplate
  dumpGeneratedArticles : settings.dumpGeneratedArticles = file.behavior.dumpGeneratedArticles
  uploadWorkers : settings.uploadWorkers = file.behavior.uploadWorkers
  dataCsv : settings.dataCsv = ⟨trim file.data.dataCsv⟩
  delimiter : [settings.delimiter] = Text.Utf8.encode (trim file.data.delimiter)
  idColumnHeader : settings.idColumnHeader = trim file.data.idColumnHeader
  erroredArticlesCsv : settings.erroredArticlesCsv = ⟨trim file.data.erroredArticlesCsv⟩
  account : settings.account = ⟨trim account.username, trim account.token⟩

/-- All requirements are judged before the delay, which is all that the result hangs on then. -/
theorem validate_judges (file : ConfigFile) (tree : FileTree) (account : Account) :
    Judges (requirements file tree account) (file.validate tree account) fun result =>
      (Delay.ofSeconds? file.confluence.delaySeconds = none ∧ result = .error .aborted) ∨
        ∃ settings, result = .ok settings ∧ SettingsOf file account settings := by
  rw [requirements, ConfigFile.validate]
  refine (judges_checkBaseUrl _).bind fun baseUrl hbaseUrl => ?_
  refine (judges_checkTemplateId _).bind fun templateId htemplateId => ?_
  refine (judges_checkMarks _ _).bind fun marks hmarks => ?_
  refine (judges_requireText _ _).bind fun uploadSpace huploadSpace => ?_
  refine (judges_checkParent _).bind fun parent hparent => ?_
  refine (judges_checkDelimiter _).bind fun delimiter hdelimiter => ?_
  refine (judges_checkDataCsv _ _).bind fun dataCsv hdataCsv => ?_
  refine (judges_requireText _ _).bind fun idColumnHeader hidColumnHeader => ?_
  refine (judges_requireText _ _).bind fun username husername => ?_
  refine (judges_requireText _ _).bind fun token htoken => ?_
  refine (judges_checkWorkers _).bind fun uploadWorkers huploadWorkers => ?_
  refine judges_nil ?_
  rw [checkDelay]
  cases hdelay : Delay.ofSeconds? file.confluence.delaySeconds with
  | none => exact .inl ⟨rfl, rfl⟩
  | some delay =>
    exact .inr ⟨_, rfl, {
      baseUrl := hbaseUrl, templateId := htemplateId, placeholder := hmarks.1.symm
      escape := hmarks.2.symm, uploadSpace := huploadSpace, uploadParentPageId := hparent
      delay := hdelay, timeoutSeconds := rfl, overwriteExistingArticles := rfl
      dumpTemplate := rfl, dumpGeneratedArticles := rfl, uploadWorkers := huploadWorkers
      dataCsv := hdataCsv, delimiter := hdelimiter.symm, idColumnHeader := hidColumnHeader
      erroredArticlesCsv := rfl, account := by rw [husername, htoken] }⟩

/-- **What a configuration must be like.** Unless the delay makes the program stop, a configuration
can be used exactly if it meets all requirements, and otherwise the problem of the first one that it
does not meet is reported. The settings then hold the trimmed texts, and neither mark is a character
of names. -/
theorem validate_reports_first (file : ConfigFile) (tree : FileTree) (account : Account)
    (hruns : file.validate tree account ≠ .error .aborted) :
    ((∃ settings, file.validate tree account = .ok settings) ↔
      ∀ requirement ∈ requirements file tree account, requirement.Met) ∧
    (∀ problem, file.validate tree account = refuse problem ↔
      FirstUnmet (requirements file tree account) problem) ∧
    ∀ settings, file.validate tree account = .ok settings →
      SettingsOf file account settings ∧
      Template.isNameChar settings.marks.placeholder = false ∧
      Template.isNameChar settings.marks.escape = false := by
  have hjudges := validate_judges file tree account
  have haccepted : (∀ requirement ∈ requirements file tree account, requirement.Met) →
      ∃ settings, file.validate tree account = .ok settings ∧ SettingsOf file account settings :=
    fun hmet => (hjudges.met hmet).resolve_left fun haborted => hruns haborted.2
  have hmet : ∀ settings, file.validate tree account = .ok settings →
      ∀ requirement ∈ requirements file tree account, requirement.Met := by
    intro settings hsettings
    rcases forall_met_or_firstUnmet (requirements file tree account) with hmet | ⟨problem, hunmet⟩
    · exact hmet
    · rw [hjudges.unmet problem hunmet] at hsettings
      cases hsettings
  refine ⟨⟨fun ⟨settings, hsettings⟩ => hmet settings hsettings, fun hmet => ?_⟩,
    fun problem => hjudges.reports_iff ?_ problem, fun settings hsettings => ?_⟩
  · obtain ⟨settings, hsettings, _⟩ := haccepted hmet
    exact ⟨settings, hsettings⟩
  · rintro problem (⟨_, haborted⟩ | ⟨settings, hsettings, _⟩)
    · cases haborted
    · cases hsettings
  · obtain ⟨_, hother, hof⟩ := haccepted (hmet settings hsettings)
    obtain rfl := Except.ok.inj (hsettings.symm.trans hother)
    exact ⟨hof, settings.marks.placeholder_not_name, settings.marks.escape_not_name⟩

/-- A file whose placeholder mark is a letter and whose escape mark has two characters, without
workers. -/
def confusedFile : ConfigFile where
  confluence := ⟨" http://wiki/ ", "7", "x", " ~~ ", "DOCS", "", .zero false, 30⟩
  behavior := ⟨false, false, false, 0⟩
  data := ⟨"data.csv", ";", "id", ""⟩

/-- That a mark is no single character is reported before that another one is a letter. -/
theorem validate_reports_first_two_marks :
    confusedFile.validate ⟨[(["data.csv"], .file [])]⟩ ⟨"user", "secret"⟩ ≠ .error .aborted ∧
    FirstUnmet (requirements confusedFile ⟨[(["data.csv"], .file [])]⟩ ⟨"user", "secret"⟩)
      (.marks (.escapeNotSingle "~~")) := by
  have hrefused : confusedFile.validate ⟨[(["data.csv"], .file [])]⟩ ⟨"user", "secret"⟩ =
      refuse (.marks (.escapeNotSingle "~~")) := by
    decide +kernel
  have hruns : confusedFile.validate ⟨[(["data.csv"], .file [])]⟩ ⟨"user", "secret"⟩ ≠
      .error .aborted := by
    rw [hrefused]
    exact nofun
  exact ⟨hruns, ((validate_reports_first _ _ _ hruns).2.1 _).mp hrefused⟩

end PageMerge.Config
