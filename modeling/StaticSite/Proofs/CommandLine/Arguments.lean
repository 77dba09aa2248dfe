/-
StaticSite.Proofs.CommandLine.Arguments — a command line as a call with arguments.

Options that stand at most once are read one by one, whatever their order and
however their values are written (`readOptions_uses`). What is not given by an
option is given by its variable, and what is not given at all keeps its usual
value. So a command line comes to the same run as the call with these
arguments (`perform_uses`).
-/
import Mathlib.Data.List.Nodup
import StaticSite.CommandLine.Options

namespace StaticSite.CommandLine

/-! ## 1. Calls -/

/-- All settings. -/
def Setting.all : List Setting :=
  [.page, .config, .outputDir]

/-- The request with another value for a setting. -/
def setArgument (request : RunRequest) : Setting → String → RunRequest
  | .page, text => { request with page := some text }
  | .config, text => { request with config := .ofText text }
  | .outputDir, text => { request with outputDir := some (.ofText text) }

/-- The request of a call. An argument that is left out keeps its usual value. -/
def callWith (argument? : Setting → Option String) : RunRequest :=
  Setting.all.foldl
    (fun request setting => (argument? setting).elim request (setArgument request setting)) {}

theorem requestOf_eq (given : Given) (env : Environment) :
    requestOf given env = callWith (settingText? given env) := by
  cases hpage : settingText? given env .page <;> cases hconfig : settingText? given env .config <;>
    cases houtput : settingText? given env .outputDir <;>
    simp [requestOf, callWith, Setting.all, setArgument, hpage, hconfig, houtput]

/-! ## 2. Options -/

/-- An option with its value, which follows an equals sign or is the next argument. -/
structure OptionUse where
  setting : Setting
  value : String
  joined : Bool
  deriving DecidableEq, Repr

namespace OptionUse

/-- The arguments that the option is written as. -/
def tokens (use : OptionUse) : List String :=
  if use.joined then [use.setting.option ++ "=" ++ use.value]
  else [use.setting.option, use.value]

/-- A value that is an argument of its own does not look like an option. -/
def IsClear (use : OptionUse) : Prop :=
  use.joined = false → startsWithDash use.value = false

instance (use : OptionUse) : Decidable use.IsClear :=
  inferInstanceAs (Decidable (_ → _))

/-- The setting with its value. -/
def entry (use : OptionUse) : Setting × String :=
  (use.setting, use.value)

end OptionUse

/-- What a setting is given: by an option, or else by its variable. -/
def argumentOf? (uses : List OptionUse) (env : Environment) (setting : Setting) : Option String :=
  match uses.find? fun use => use.setting == setting with
  | some use => some use.value
  | none => env setting.variable

theorem splitAtEquals_of_not_mem {name : List Char} (h : '=' ∉ name) :
    splitAtEquals name = (name, none) := by
  induction name with
  | nil => rfl
  | cons c name ih =>
    rw [List.mem_cons, not_or] at h
    rw [splitAtEquals, ih h.2]
    exact fun hc => h.1 hc.symm

theorem splitAtEquals_append {name : List Char} (h : '=' ∉ name) (value : List Char) :
    splitAtEquals (name ++ '=' :: value) = (name, some value) := by
  induction name with
  | nil => rfl
  | cons c name ih =>
    rw [List.mem_cons, not_or] at h
    rw [List.cons_append, splitAtEquals, ih h.2]
    exact fun hc => h.1 hc.symm

theorem Setting.equals_not_mem_option (setting : Setting) : '=' ∉ setting.option.toList := by
  cases setting <;> decide

theorem settingOf?_option (setting : Setting) : settingOf? setting.option = some setting := by
  cases setting <;> decide

theorem Setting.option_toList (setting : Setting) :
    ∃ c name, setting.option.toList = '-' :: '-' :: c :: name := by
  cases setting <;> exact ⟨_, _, rfl⟩

/-- An argument that starts with the name of an option is not just two dashes. -/
theorem option_append_isOption (setting : Setting) (s : String) :
    (setting.option ++ s == "--") = false ∧ startsWithDash (setting.option ++ s) = true := by
  obtain ⟨c, name, hname⟩ := setting.option_toList
  constructor
  · rw [beq_eq_false_iff_ne]
    intro hdashes
    have hchars := congrArg String.toList hdashes
    simp [String.toList_append, hname] at hchars
  · simp [startsWithDash, String.toList_append, hname]

/-! ## 3. Reading options -/

theorem given?_append (setting : Setting) (given more : Given) :
    given? setting (given ++ more) = (given? setting given).or (given? setting more) := by
  induction given with
  | nil => rfl
  | cons entry given ih =>
    rw [List.cons_append, given?, given?, ih]
    split <;> rfl

theorem given?_entries (setting : Setting) (uses : List OptionUse) :
    given? setting (uses.map OptionUse.entry) =
      (uses.find? fun use => use.setting == setting).map OptionUse.value := by
  induction uses with
  | nil => rfl
  | cons use uses ih =>
    rw [List.map_cons, OptionUse.entry, given?, ih, List.find?_cons]
    by_cases h : use.setting = setting
    · rw [if_pos h, beq_iff_eq.mpr h]
      rfl
    · rw [if_neg h, beq_eq_false_iff_ne.mpr h]

theorem addGiven_new {given : Given} {use : OptionUse} (h : given? use.setting given = none) :
    addGiven use.setting use.value given = .ok (given ++ [use.entry]) := by
  rw [addGiven, h]
  rfl

theorem readToken_option (setting : Setting) :
    readToken setting.option = .ok (.option setting none) := by
  have hsplit := splitAtEquals_of_not_mem setting.equals_not_mem_option
  obtain ⟨hdashes, hdash⟩ := option_append_isOption setting ""
  rw [String.append_empty] at hdashes hdash
  simp [readToken, hdashes, hdash, hsplit, settingOf?_option]

theorem readToken_joined (setting : Setting) (value : String) :
    readToken (setting.option ++ ("=" ++ value)) = .ok (.option setting (some value)) := by
  have hsplit : splitAtEquals (setting.option ++ ("=" ++ value)).toList =
      (setting.option.toList, some value.toList) := by
    rw [String.toList_append, String.toList_append]
    exact splitAtEquals_append setting.equals_not_mem_option value.toList
  obtain ⟨hdashes, hdash⟩ := option_append_isOption setting ("=" ++ value)
  rw [readToken, hdashes, hdash, hsplit]
  simp [settingOf?_option]

/-- An option that has not been there before is read with its value, however it is written. -/
theorem readOptions_tokens {given : Given} {use : OptionUse}
    (hnew : given? use.setting given = none) (hclear : use.IsClear) (rest : List String) :
    readOptions given (use.tokens ++ rest) = readOptions (given ++ [use.entry]) rest := by
  have hadd := addGiven_new hnew
  rw [OptionUse.tokens]
  cases hjoined : use.joined with
  | true =>
    rw [if_pos rfl, String.append_assoc, List.singleton_append]
    rw [readOptions.eq_def]
    simp only [readToken_joined, hadd]
  | false =>
    have hvalue : canBeValue use.value = true := by
      simp [canBeValue, hclear hjoined]
    rw [if_neg Bool.false_ne_true, List.cons_append, List.singleton_append]
    rw [readOptions.eq_def]
    simp only [readToken_option, hvalue, hadd, Bool.not_true, Bool.false_eq_true, if_false]

/-- Options that stand once each are read one after the other. -/
theorem readOptions_uses {given : Given} {uses : List OptionUse}
    (hnew : ∀ use ∈ uses, given? use.setting given = none)
    (honce : (uses.map OptionUse.setting).Nodup) (hclear : ∀ use ∈ uses, use.IsClear) :
    readOptions given (uses.flatMap OptionUse.tokens) =
      .ok (given ++ uses.map OptionUse.entry) := by
  induction uses generalizing given with
  | nil => rw [List.flatMap_nil, readOptions, List.map_nil, List.append_nil]
  | cons use uses ih =>
    rw [List.forall_mem_cons] at hnew hclear
    rw [List.map_cons, List.nodup_cons] at honce
    rw [List.flatMap_cons, readOptions_tokens hnew.1 hclear.1, ih _ honce.2 hclear.2,
      List.map_cons, List.append_assoc, List.singleton_append]
    intro other hother
    have hdiffers : use.setting ≠ other.setting := fun heq =>
      honce.1 (List.mem_map.mpr ⟨other, hother, heq.symm⟩)
    rw [given?_append, hnew.2 other hother, OptionUse.entry, given?, if_neg hdiffers]
    rfl

/-! ## 4. Arguments that ask for something else -/

/-- An argument by which help is asked for, or the version. -/
def asksAbout : List String :=
  versionToken :: helpTokens

theorem not_mem_tokens_of_asksAbout {use : OptionUse} (hclear : use.IsClear) {token : String}
    (h : token ∈ asksAbout) : token ∉ use.tokens := by
  have hdash : ∀ token ∈ asksAbout, startsWithDash token = true := by decide
  have hequals : ∀ token ∈ asksAbout, '=' ∉ token.toList := by decide
  have hoption : ∀ setting : Setting, setting.option ∉ asksAbout := by
    intro setting
    cases setting <;> decide
  intro hmem
  rw [OptionUse.tokens] at hmem
  split at hmem
  · rw [List.mem_singleton.mp hmem] at h
    exact hequals _ h (by simp [String.toList_append])
  · next hjoined =>
    rw [Bool.not_eq_true] at hjoined
    rcases List.mem_cons.mp hmem with heq | hmem
    · exact hoption use.setting (heq ▸ h)
    · rw [List.mem_singleton.mp hmem] at h
      exact Bool.noConfusion ((hclear hjoined).symm.trans (hdash _ h))

theorem readCommand_of_not_asks {args : List String}
    (h : ∀ token ∈ asksAbout, token ∉ args) (env : Environment) :
    readCommand (commandName :: args) env =
      (readOptions [] args).map fun given => .generate (requestOf given env) := by
  have hbefore : ∀ token ∈ asksAbout, (beforeDashes args).contains token = false := by
    intro token htoken
    rw [Bool.eq_false_iff, Ne, List.contains_iff_mem]
    exact fun hmem => h token htoken (List.takeWhile_subset _ hmem)
  have hhelp : helpToken? args = none := by
    rw [helpToken?, List.find?_eq_none]
    intro token htoken
    rw [hbefore token (List.mem_cons_of_mem _ htoken)]
    exact Bool.false_ne_true
  rw [readCommand, beq_self_eq_true, if_pos rfl, hhelp, hbefore _ List.mem_cons_self]
  cases readOptions [] args <;> rfl

/-! ## 5. Runs -/

/-- A command line with options that stand once each comes to the same run as the call with the
arguments that the options and, where there is none, the variables give. -/
theorem perform_uses (fs : FileSystem) (env : Environment) {uses : List OptionUse}
    (honce : (uses.map OptionUse.setting).Nodup) (hclear : ∀ use ∈ uses, use.IsClear) :
    (readCommand (commandName :: uses.flatMap OptionUse.tokens) env).map (Command.perform fs) =
      .ok (some (generateSite fs (callWith (argumentOf? uses env)))) := by
  have hread : readOptions [] (uses.flatMap OptionUse.tokens) =
      .ok (uses.map OptionUse.entry) := readOptions_uses (fun _ _ => rfl) honce hclear
  have harguments : settingText? (uses.map OptionUse.entry) env = argumentOf? uses env := by
    funext setting
    rw [settingText?, given?_entries, argumentOf?]
    cases uses.find? fun use => use.setting == setting <;> rfl
  rw [readCommand_of_not_asks, hread, ← harguments, ← requestOf_eq]
  · rfl
  · intro token htoken hmem
    obtain ⟨use, huse, hmem⟩ := List.mem_flatMap.mp hmem
    exact not_mem_tokens_of_asksAbout (hclear use huse) htoken hmem

/-- Two options, the first one with an equals sign in its value. -/
def mixedUses : List OptionUse :=
  [⟨.outputDir, "a=b c", true⟩, ⟨.page, "user-guide", false⟩]

/-- Variables for a setting with an option and for one without. -/
def mixedVariables : Environment := fun name =>
  [("INPUT_PAGE", "home"), ("INPUT_CONFIG", "--c.yaml")].lookup name

theorem perform_uses_mixed :
    commandName :: mixedUses.flatMap OptionUse.tokens =
        ["generate", "--output-dir=a=b c", "--page", "user-guide"] ∧
      callWith (argumentOf? mixedUses mixedVariables) =
        ⟨some "user-guide", .ofText "--c.yaml", some (.ofText "a=b c")⟩ ∧
      (mixedUses.map OptionUse.setting).Nodup ∧ (∀ use ∈ mixedUses, use.IsClear) ∧
      (readCommand (commandName :: mixedUses.flatMap OptionUse.tokens) mixedVariables).map
          (Command.perform (.empty [])) =
        .ok (some (generateSite (.empty [])
          (callWith (argumentOf? mixedUses mixedVariables)))) := by
  have honce : (mixedUses.map OptionUse.setting).Nodup := by decide
  have hclear : ∀ use ∈ mixedUses, use.IsClear := by decide
  exact ⟨by decide, by decide, honce, hclear,
    perform_uses (.empty []) mixedVariables honce hclear⟩

end StaticSite.CommandLine
