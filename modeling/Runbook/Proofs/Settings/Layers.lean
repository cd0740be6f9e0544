import Runbook.Proofs.Document.Fields
import Runbook.Proofs.Logged
import Runbook.Settings

/-! # Layers of settings

Settings are put together in layers: the defaults, the settings file, and the overrides.
A later layer wins over an earlier one, with one exception: the home directory that is
given as an override counts before the settings file is read, which may name another one.
The directory of the profiles moves along with the home directory that holds in the end,
unless one of the layers sets it.
-/

namespace Runbook

open Document (Fields Value)

namespace Settings

/-! ## Updates -/

section Updates

variable {settings updated : Settings} {changes : Fields}

/-- The home directory is a text, and the directory of the profiles lies in it. -/
def IsHoused (settings : Settings) : Prop :=
  ∃ home, settings.get? "home_dir" = some (.text home) ∧
    settings.get? "envs_dir" = some (.text (Files.Path.below home "envs"))

theorem belowHome_eq_ok_iff {home : Value} {name path : String} :
    belowHome home name = .ok path ↔
      ∃ directory, home = .text directory ∧ path = Files.Path.below directory name := by
  cases home with
  | text directory => simp [belowHome, eq_comm]
  | _ => simp [belowHome]

/-- What an update changes: the settings that it names, and the directory of the profiles if
it names the home directory alone. -/
theorem exists_moved_of_update (ended : settings.update changes = .ok updated) :
    ∃ moved, updated.fields =
        moved.toList.foldl (fun fields entry => fields.set entry.1 entry.2) settings.fields ∧
      (moved = changes ∧
          (changes.get? (.text "home_dir") = none ∨ changes.get? (.text "envs_dir") ≠ none) ∨
        ∃ home, changes.get? (.text "home_dir") = some (.text home) ∧
          changes.get? (.text "envs_dir") = none ∧
            moved = changes.set (.text "envs_dir") (.text (Files.Path.below home "envs"))) := by
  rcases Results.bind_eq_ok_iff.mp ended with ⟨moved, moves, ended⟩
  cases ended
  refine ⟨moved, rfl, ?_⟩
  split at moves
  · rename_i home found missing
    rcases Results.bind_eq_ok_iff.mp moves with ⟨path, below, moves⟩
    cases moves
    rcases belowHome_eq_ok_iff.mp below with ⟨directory, rfl, rfl⟩
    exact .inr ⟨directory, found, missing, rfl⟩
  · rename_i unmoved
    cases moves
    refine .inl ⟨rfl, ?_⟩
    by_contra both
    push Not at both
    rcases Option.ne_none_iff_exists'.mp both.1 with ⟨home, found⟩
    exact unmoved home found both.2

theorem get?_update (distinct : changes.Distinct) (ended : settings.update changes = .ok updated)
    {key : Value} (stays : key ≠ .text "envs_dir") :
    updated.fields.get? key = (changes.get? key).or (settings.fields.get? key) := by
  rcases exists_moved_of_update ended with ⟨moved, fields, ⟨rfl, -⟩ | ⟨home, -, -, rfl⟩⟩
  · rw [fields, Fields.get?_setAll distinct]
  · rw [fields, Fields.get?_setAll (distinct.set _ _), Fields.get?_set, if_neg]
    simpa using stays

theorem get?_update_of_some (distinct : changes.Distinct)
    (ended : settings.update changes = .ok updated) {key value : Value}
    (given : changes.get? key = some value) : updated.fields.get? key = some value := by
  rcases exists_moved_of_update ended with ⟨moved, fields, ⟨rfl, -⟩ | ⟨home, -, missing, rfl⟩⟩
  · rw [fields, Fields.get?_setAll distinct, given]
    rfl
  · rw [get?_update distinct ended, given]
    · rfl
    · rintro rfl
      rw [missing] at given
      cases given

theorem get?_update_of_homeless (distinct : changes.Distinct)
    (ended : settings.update changes = .ok updated)
    (homeless : changes.get? (.text "home_dir") = none) (key : Value) :
    updated.fields.get? key = (changes.get? key).or (settings.fields.get? key) := by
  rcases exists_moved_of_update ended with ⟨moved, fields, ⟨rfl, -⟩ | ⟨home, found, -⟩⟩
  · rw [fields, Fields.get?_setAll distinct]
  · rw [homeless] at found
    cases found

theorem IsHoused.update (housed : settings.IsHoused) (distinct : changes.Distinct)
    (ended : settings.update changes = .ok updated)
    (unset : changes.get? (.text "envs_dir") = none) : updated.IsHoused := by
  rcases exists_moved_of_update ended with ⟨moved, fields, ⟨rfl, untouched⟩ | ⟨home, found, -, rfl⟩⟩
  · have untouched : moved.get? (.text "home_dir") = none :=
      untouched.resolve_right fun set => set unset
    rcases housed with ⟨home, first, second⟩
    refine ⟨home, ?_, ?_⟩
    · rw [get?, fields, Fields.get?_setAll distinct, untouched, Option.none_or, ← get?, first]
    · rw [get?, fields, Fields.get?_setAll distinct, unset, Option.none_or, ← get?, second]
  · refine ⟨home, ?_, ?_⟩
    · rw [get?, fields, Fields.get?_setAll (distinct.set _ _), Fields.get?_set, if_neg (by simp),
        found, Option.some_or]
    · rw [get?, fields, Fields.get?_setAll (distinct.set _ _), Fields.get?_set, if_pos (by simp),
        Option.some_or]

theorem update_nil : settings.update .nil = .ok settings := rfl

end Updates

/-! ## Texts that stand for other values -/

/-- How the text of a setting is read, for those that are no texts. -/
def reading? : String → Option (String → Option Value)
  | "max_expansion_depth" => some fun text => (Number.readInteger? text).map .integer
  | "kill_timeout" => some fun text => (Number.read? text).map .decimal
  | "verbose" => some fun text =>
      let word := (String.ofList (Text.strip text.toList)).toLower
      some (.boolean (affirmative.contains word))
  | _ => none

/-- The value that holds for a key once texts that can be read have been read. -/
def coerced (key value : Value) : Value :=
  match key, value with
  | .text name, .text text => ((reading? name).bind fun read => read text).getD value
  | _, _ => value

/-- The settings in which the text of one setting has been read. -/
def coercedAt (settings : Settings) (name : String) (parse : String → Option Value) : Settings :=
  match settings.get name with
  | .text text => (parse text).elim settings (settings.set name)
  | _ => settings

theorem ends_coerce (settings : Settings) (name : String) (parse : String → Option Value) :
    Logged.Ends (settings.coerce name parse) (.ok (settings.coercedAt name parse)) := by
  unfold coerce coercedAt
  cases settings.get name with
  | text text =>
      cases read : parse text with
      | some value =>
          simp only [read, Option.elim_some]
          exact .pure _
      | none =>
          simp only [read, Option.elim_none]
          exact .record _ _ (.pure _)
  | _ => exact .pure _

theorem get?_coercedAt_self {settings : Settings} {name : String}
    {parse : String → Option Value} (read : reading? name = some parse) :
    (settings.coercedAt name parse).fields.get? (.text name) =
      (settings.fields.get? (.text name)).map (coerced (.text name)) := by
  unfold coercedAt get
  cases found : settings.get? name with
  | none =>
      rw [get?] at found
      simp [found]
  | some value =>
      rw [get?] at found
      cases value with
      | text text =>
          cases parsed : parse text with
          | some other => simp [set, Fields.get?_set, found, coerced, read, parsed]
          | none => simp [found, coerced, read, parsed]
      | _ => simp [found, coerced]

theorem get?_coercedAt_of_ne {settings : Settings} {name : String}
    {parse : String → Option Value} {key : Value} (other : key ≠ .text name) :
    (settings.coercedAt name parse).fields.get? key = settings.fields.get? key := by
  unfold coercedAt
  cases settings.get name with
  | text text =>
      cases parsed : parse text with
      | some value => simp [set, Fields.get?_set, other, parsed]
      | none => simp [parsed]
  | _ => rfl

/-- The settings in which all texts that stand for other values have been read. -/
def coercedAll (settings : Settings) : Settings :=
  ((settings.coercedAt "max_expansion_depth" fun text =>
    (Number.readInteger? text).map .integer).coercedAt "kill_timeout" fun text =>
      (Number.read? text).map .decimal).coercedAt "verbose" fun text =>
        let word := (String.ofList (Text.strip text.toList)).toLower
        some (.boolean (affirmative.contains word))

theorem ends_coerceAll (settings : Settings) :
    Logged.Ends settings.coerceAll (.ok settings.coercedAll) :=
  (ends_coerce settings _ _).bind fun _ => (ends_coerce _ _ _).bind fun _ => ends_coerce _ _ _

theorem coerced_of_ne {key value : Value} (depth : key ≠ .text "max_expansion_depth")
    (timeout : key ≠ .text "kill_timeout") (verbose : key ≠ .text "verbose") :
    coerced key value = value := by
  cases key with
  | text name =>
      have unread : reading? name = none := by
        unfold reading?
        split
        all_goals simp_all
      cases value with
      | text text => simp [coerced, unread]
      | _ => rfl
  | _ => rfl

theorem get?_coercedAll (settings : Settings) (key : Value) :
    settings.coercedAll.fields.get? key = (settings.fields.get? key).map (coerced key) := by
  unfold coercedAll
  by_cases verbose : key = .text "verbose"
  · rw [verbose, get?_coercedAt_self rfl, get?_coercedAt_of_ne (by simp),
      get?_coercedAt_of_ne (by simp)]
  rw [get?_coercedAt_of_ne verbose]
  by_cases timeout : key = .text "kill_timeout"
  · rw [timeout, get?_coercedAt_self rfl, get?_coercedAt_of_ne (by simp)]
  rw [get?_coercedAt_of_ne timeout]
  by_cases depth : key = .text "max_expansion_depth"
  · rw [depth, get?_coercedAt_self rfl]
  · rw [get?_coercedAt_of_ne depth, Option.map_congr fun _ _ => coerced_of_ne depth timeout verbose,
      Option.map_id']

theorem IsHoused.coercedAll {settings : Settings} (housed : settings.IsHoused) :
    settings.coercedAll.IsHoused := by
  rcases housed with ⟨home, first, second⟩
  rw [get?] at first second
  refine ⟨home, ?_, ?_⟩
  · rw [get?, get?_coercedAll, first, Option.map_some, coerced_of_ne (by simp) (by simp) (by simp)]
  · rw [get?, get?_coercedAll, second, Option.map_some,
      coerced_of_ne (by simp) (by simp) (by simp)]

/-! ## The layers -/

/-- The settings that hold while the settings file is looked for. -/
def started (environment : List (String × String)) (overrides : Fields) :
    Except Fault Settings :=
  let home := overrides.field "home_dir"
  if home.isTrue then ofChanges environment (.ofPairs [(.text "home_dir", home)])
  else .ok (default environment)

/-- The mapping that a settings file has to hold. -/
def mappingIn (reader : Document.Reader) (files : Files.FileSystem) (place : String) :
    Except Fault Fields := do
  let text ← files.readText place
  let value ← orFault .document (reader text)
  match if value.isTrue then value else .mapping .nil with
  | .mapping fields => return fields
  | _ => throw (.value s!"Settings file must contain a mapping: {place}")

/-- What the settings file says. Without a file it says nothing, unless it was asked for. -/
def fileLayer (settings : Settings) (reader : Document.Reader) (files : Files.FileSystem)
    (path : Option String) : Except Fault Fields := do
  let place ← settings.filePath path
  if ← files.leadsToFile place then mappingIn reader files place
  else if path.isSome then throw (.missingSettings place)
  else return .nil

theorem ends_ofFile (reader : Document.Reader) (files : Files.FileSystem) (place : String) :
    Logged.Ends (ofFile reader files place) (mappingIn reader files place) := by
  refine (Logged.Ends.ofExcept _).bind fun text => (Logged.Ends.ofExcept _).bind fun value => ?_
  dsimp only
  cases if value.isTrue then value else .mapping .nil with
  | mapping fields => exact .pure _
  | _ => exact .record _ _ (.throw _)

theorem distinct_of_mappingIn {reader : Document.Reader} (keyed : reader.IsKeyed)
    {files : Files.FileSystem} {place : String} {fields : Fields}
    (found : mappingIn reader files place = .ok fields) : fields.Distinct := by
  rcases Results.bind_eq_ok_iff.mp found with ⟨text, -, found⟩
  rcases Results.bind_eq_ok_iff.mp found with ⟨value, read, found⟩
  by_cases true : value.isTrue
  · rw [if_pos true] at found
    cases value with
    | mapping held =>
        cases found
        exact keyed (Results.mapError_eq_ok_iff.mp read)
    | _ => cases found
  · rw [if_neg true] at found
    cases found
    exact List.Pairwise.nil

theorem distinct_of_fileLayer {reader : Document.Reader} (keyed : reader.IsKeyed)
    {settings : Settings} {files : Files.FileSystem} {path : Option String} {fields : Fields}
    (found : settings.fileLayer reader files path = .ok fields) : fields.Distinct := by
  rcases Results.bind_eq_ok_iff.mp found with ⟨place, -, found⟩
  rcases Results.bind_eq_ok_iff.mp found with ⟨leads, -, found⟩
  cases leads with
  | true => exact distinct_of_mappingIn keyed found
  | false =>
      cases path with
      | some path => cases found
      | none =>
          cases found
          exact List.Pairwise.nil

/-- The settings with the layer of the settings file over them. -/
def overlaid (settings : Settings) (reader : Document.Reader) (files : Files.FileSystem)
    (path : Option String) : Except Fault Settings := do
  let file ← settings.fileLayer reader files path
  settings.update file

/-- Loading sets one layer over the other. -/
theorem ends_load (reader : Document.Reader) (files : Files.FileSystem)
    (environment : List (String × String)) (path : Option String) (overrides : Fields) :
    Logged.Ends (load reader files environment path overrides) (do
      let settings ← started environment overrides
      let settings ← settings.overlaid reader files path
      let settings ← settings.update (lasting overrides)
      return settings.coercedAll) := by
  have last (settings : Settings) :
      Logged.Ends (do
        let settings ← Logged.ofExcept (settings.update (lasting overrides))
        settings.coerceAll) (do
          let settings ← settings.update (lasting overrides)
          return settings.coercedAll) :=
    .bind (.ofExcept _) ends_coerceAll
  -- The overrides are set over the same settings in each of the cases.
  unfold load started
  dsimp only
  split
  on_goal 2 => change Logged.Ends (Logged.ofExcept (.ok (default environment)) >>= _) _
  all_goals
    refine .bind (.ofExcept _) fun settings => ?_
    simp only [overlaid, fileLayer, bind_assoc]
    refine .bind (.ofExcept _) fun place => .bind (.ofExcept _) fun leads => ?_
    cases leads with
    | true =>
        simp only [↓reduceIte, bind_assoc, pure_bind]
        exact .bind (ends_ofFile _ _ _) fun file => .bind (.ofExcept _) fun updated =>
          .record _ _ (last updated)
    | false =>
        cases path with
        | some path =>
            simp only [Bool.false_eq_true, ↓reduceIte, Option.isSome_some]
            exact fun _ => rfl
        | none =>
            simp only [Bool.false_eq_true, ↓reduceIte, Option.isSome_none, pure_bind, update_nil]
            exact last settings

/-! ## What wins -/

theorem get?_lasting {overrides : Fields} (distinct : overrides.Distinct) (key : Value) :
    (lasting overrides).get? key =
      (overrides.get? key).filter fun value => value != .null && key != .text "home_dir" := by
  refine Fields.get?_filter (fun entry => entry.2 != .null && entry.1 != .text "home_dir")
    (fun other value same => ?_) distinct
  congr 1
  rw [Bool.eq_iff_iff, bne_iff_ne, bne_iff_ne, not_iff_not]
  constructor
  · rintro rfl
    exact Value.sameKey_text.mp same
  · rintro rfl
    exact Value.sameKey_text_right.mp same

theorem get?_lasting_eq_none_iff {overrides : Fields} (distinct : overrides.Distinct)
    {key : Value} : (lasting overrides).get? key = none ↔
      (overrides.get? key).getD .null = .null ∨ key = .text "home_dir" := by
  rw [get?_lasting distinct]
  cases overrides.get? key with
  | none => simp
  | some value => simp [Option.filter_eq_none_iff, or_iff_not_imp_left]

section Load

variable {reader : Document.Reader} {files : Files.FileSystem}
  {environment : List (String × String)} {path : Option String} {overrides : Fields}
  {settings : Settings}

/-- The home directory that holds until the settings file is read. -/
def firstHome (environment : List (String × String)) (overrides : Fields) : Value :=
  if (overrides.field "home_dir").isTrue then overrides.field "home_dir"
  else .text (defaultHome environment)

theorem isHoused_default : (default environment).IsHoused := ⟨_, rfl, rfl⟩

theorem coercedAll_default (environment : List (String × String)) :
    (default environment).coercedAll = default environment := by
  simp [coercedAll, coercedAt, default, get, get?, Fields.ofPairs, Fields.get?_set]

theorem distinct_home (home : Value) : (Fields.ofPairs [(.text "home_dir", home)]).Distinct :=
  Fields.distinct_ofPairs _

/-- What holds while the settings file is looked for are the defaults, but for the home
directory, and the directory of the profiles lies in it. -/
theorem get?_started {first : Settings} (ended : started environment overrides = .ok first) :
    first.IsHoused ∧ first.get? "home_dir" = some (firstHome environment overrides) ∧
      ∀ key, key ≠ .text "home_dir" → key ≠ .text "envs_dir" →
        first.fields.get? key = (default environment).fields.get? key := by
  unfold started at ended
  unfold firstHome
  dsimp only at ended
  split at ended
  · rename_i given
    have distinct := distinct_home (overrides.field "home_dir")
    rw [if_pos given]
    refine ⟨isHoused_default.update distinct ended rfl, ?_, fun key home envs => ?_⟩
    · exact get?_update_of_some distinct ended rfl
    · rw [get?_update distinct ended envs]
      simp [Fields.ofPairs, Fields.get?_set, Fields.get?, home]
  · rename_i given
    cases ended
    rw [if_neg given]
    exact ⟨isHoused_default, rfl, fun _ _ _ => rfl⟩

/-- Settings are put together in layers: what the overrides set wins over the settings
file, which wins over the defaults, only that the home directory is read from the settings
file first. The directory of the profiles lies in the home directory that holds in the end
unless the overrides or the settings file set it. -/
theorem loaded_in_layers (keyed : reader.IsKeyed) (distinct : overrides.Distinct)
    (loaded : (load reader files environment path overrides).outcome.1 = .ok settings) :
    ∃ first file, started environment overrides = .ok first ∧
      first.fileLayer reader files path = .ok file ∧
      (∀ key value, overrides.get? key = some value → value ≠ .null → key ≠ .text "home_dir" →
        settings.fields.get? key = some (coerced key value)) ∧
      (∀ key value, file.get? key = some value →
        (overrides.get? key).getD .null = .null ∨ key = .text "home_dir" →
        settings.fields.get? key = some (coerced key value)) ∧
      (file.get? (.text "home_dir") = none →
        settings.get? "home_dir" = some (firstHome environment overrides)) ∧
      (file.get? (.text "envs_dir") = none → overrides.field "envs_dir" = .null →
        settings.IsHoused) ∧
      ∀ key, file.get? key = none → (overrides.get? key).getD .null = .null →
        key ≠ .text "home_dir" → key ≠ .text "envs_dir" →
        settings.fields.get? key = (default environment).fields.get? key := by
  have ended := (ends_load reader files environment path overrides).outcome.symm.trans loaded
  rcases Results.bind_eq_ok_iff.mp ended with ⟨first, begun, ended⟩
  rcases Results.bind_eq_ok_iff.mp ended with ⟨second, laid, ended⟩
  rcases Results.bind_eq_ok_iff.mp ended with ⟨third, lasts, ended⟩
  rcases Results.bind_eq_ok_iff.mp laid with ⟨file, found, laid⟩
  cases ended
  rcases get?_started begun with ⟨housed, home, others⟩
  have distinctFile := distinct_of_fileLayer keyed found
  have distinctLasting : (lasting overrides).Distinct := distinct.filter _
  have homeless : (lasting overrides).get? (.text "home_dir") = none :=
    (get?_lasting_eq_none_iff distinct).mpr (.inr rfl)
  have keep {key : Value} (unset : (overrides.get? key).getD .null = .null ∨
      key = .text "home_dir") : third.fields.get? key = second.fields.get? key := by
    rw [get?_update_of_homeless distinctLasting lasts homeless,
      (get?_lasting_eq_none_iff distinct).mpr unset, Option.none_or]
  refine ⟨first, file, begun, found, ?_, ?_, ?_, ?_, ?_⟩
  · intro key value given present other
    have lastly : (lasting overrides).get? key = some value := by
      simp [get?_lasting distinct, given, present, other]
    rw [get?_coercedAll, get?_update_of_some distinctLasting lasts lastly, Option.map_some]
  · intro key value said unset
    rw [get?_coercedAll, keep unset, get?_update_of_some distinctFile laid said, Option.map_some]
  · intro unsaid
    rw [get?, get?_coercedAll, keep (.inr rfl), get?_update distinctFile laid (by simp), unsaid,
      Option.none_or, ← get?, home, Option.map_some,
      coerced_of_ne (by simp) (by simp) (by simp)]
  · intro unsaid unset
    exact ((housed.update distinctFile laid unsaid).update distinctLasting lasts
      ((get?_lasting_eq_none_iff distinct).mpr (.inl unset))).coercedAll
  · intro key unsaid unset otherHome otherEnvs
    rw [get?_coercedAll, keep (.inl unset), get?_update distinctFile laid otherEnvs, unsaid,
      Option.none_or, others key otherHome otherEnvs, ← get?_coercedAll, coercedAll_default]

/-- A settings file that names a home directory of its own. -/
def movingFiles : Files.FileSystem :=
  ⟨.directory (.cons "config.yaml" (.file "'home_dir': '/moved'\n".toUTF8) .nil), []⟩

/-- Overrides with a home directory. -/
def givenHome : Fields := .ofPairs [(.text "home_dir", .text "/given")]

theorem fileLayer_moving (settings : Settings) :
    settings.fileLayer Document.read movingFiles (some "config.yaml") =
      .ok (.ofPairs [(.text "home_dir", .text "/moved")]) := by
  have tidied : settings.filePath (some "config.yaml") = .ok "config.yaml" := by
    change Except.ok (Files.Path.tidy "config.yaml") = _
    decide +kernel
  have leads : movingFiles.leadsToFile "config.yaml" = .ok true := by decide +kernel
  have held : movingFiles.readText "config.yaml" = .ok "'home_dir': '/moved'\n" := by decide +kernel
  have read : Document.read "'home_dir': '/moved'\n" =
      .ok (.mapping (.ofPairs [(.text "home_dir", .text "/moved")])) := by
    decide +kernel
  refine Results.bind_eq_ok_iff.mpr ⟨_, tidied, Results.bind_eq_ok_iff.mpr ⟨_, leads, ?_⟩⟩
  exact Results.bind_eq_ok_iff.mpr ⟨_, held, Results.bind_eq_ok_iff.mpr
    ⟨_, Results.mapError_eq_ok_iff.mpr read, rfl⟩⟩

theorem loaded_in_layers_moving :
    ∃ settings, (load Document.read movingFiles [] (some "config.yaml") givenHome).outcome.1 =
        .ok settings ∧
      settings.get? "home_dir" = some (.text "/moved") ∧
        settings.get? "envs_dir" = some (.text "/moved/envs") := by
  have distinct : givenHome.Distinct := distinct_home _
  obtain ⟨settings, loaded⟩ : ∃ settings,
      (load Document.read movingFiles [] (some "config.yaml") givenHome).outcome.1 =
        .ok settings := by
    rw [(ends_load _ _ _ _ _).outcome]
    simp only [overlaid, fileLayer_moving]
    exact ⟨_, rfl⟩
  rcases loaded_in_layers Document.isKeyed_read distinct loaded with
    ⟨first, file, -, found, -, said, -, housed, -⟩
  cases (fileLayer_moving first).symm.trans found
  have home := said (.text "home_dir") (.text "/moved") rfl (.inr rfl)
  rcases housed rfl rfl with ⟨other, again, envs⟩
  refine ⟨settings, loaded, home, ?_⟩
  cases again.symm.trans home
  exact envs

end Load

end Settings

end Runbook
