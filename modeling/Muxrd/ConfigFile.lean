import Muxrd.Config
import Muxrd.Lib.Utf8

set_option autoImplicit false

namespace Muxrd.Config

open RustStd

structure Toml where
  fromStr : String -> Option FileConfig
  toStringPretty : FileConfig -> Option String

def onlyComments : Bool -> List Char -> Bool
  | _, [] => true
  | true, c :: rest => (c = '#' && onlyComments false rest) || (c = '\n' && onlyComments true rest)
  | false, c :: rest => onlyComments (c = '\n') rest

/-- What is written comes back, and comments are no entries; a control character in one is an error. -/
structure Toml.Lawful (toml : Toml) : Prop where
  roundTrip : ∀ config text, toml.toStringPretty config = some text -> toml.fromStr text = some config
  comments : ∀ text config, onlyComments true text.toList = true -> toml.fromStr text = some config ->
    config = .default

/-- How a write of a whole file ends: the file cannot be opened, or only so many bytes get into it. -/
inductive Write
  | whole
  | refused
  | cut (kept : Nat)
  deriving DecidableEq, Repr

def Write.run (write : Write) (old : Option (List UInt8)) (bytes : List UInt8) : Option (List UInt8) :=
  match write with
  | .whole => some bytes
  | .refused => old
  | .cut kept => some (bytes.take kept)

structure ConfigDir where
  config : Option (List UInt8)
  temp : Option (List UInt8)
  deriving DecidableEq, Repr

/-- How the calls to the file system end; whether the configuration can be written as TOML is up to the crate. -/
structure Faults where
  dataDir : Bool
  template : Write
  read : Bool
  temp : Write
  chmod : Bool
  rename : Bool
  deriving DecidableEq, Repr

section Source

variable (host : Host) (toml : Toml)

def configFilePath : String :=
  joinPath host.dataDir "config.toml"

def tempPath : String :=
  joinPath host.dataDir ".config.toml.tmp"

def template : String :=
  "# muxrd configuration file\n" ++
    "# All fields are optional; missing fields use built-in defaults.\n" ++
    "#\n" ++
    "# bind_addr = \"" ++ defaultBind ++ "\"\n" ++
    "# cert_dir  = \"" ++ host.dataDir ++ "\"\n" ++
    "# log_path  = \"" ++ joinPath host.dataDir "muxrd.log" ++ "\"\n"

/-- `none` where the content is no text; what does not parse is taken for a file without entries. -/
def loadFile (file : Option (List UInt8)) : Option FileConfig :=
  match file with
  | some bytes => (fromUtf8 bytes).map fun raw => (toml.fromStr raw).getD .default
  | none => some .default

def ConfigDir.resolve (dir : ConfigDir) (bindOverride : Option String) : Except String EffectiveConfig :=
  match loadFile toml dir.config with
  | some fileCfg => .ok (Config.resolve host (.parsed fileCfg) bindOverride)
  | none => .error ("read " ++ configFilePath host)

def ConfigDir.ensureConfigFile (dir : ConfigDir) (write : Write) : Except String Unit × ConfigDir :=
  if dir.config.isSome then (.ok (), dir)
  else
    let ensured := { dir with config := write.run dir.config (asBytes (template host)) }
    if write = .whole then (.ok (), ensured) else (.error ("write config file " ++ configFilePath host), ensured)

/-- The new content goes to the temporary file, which takes the place of the old one at the end. -/
def ConfigDir.replace (dir : ConfigDir) (faults : Faults) (text : String) : Except String Unit × ConfigDir :=
  let written := { dir with temp := faults.temp.run dir.temp (asBytes text) }
  if faults.temp ≠ .whole then (.error ("set_bind_addr: write temp file " ++ tempPath host), written)
  else if !faults.chmod then (.error ("set_bind_addr: chmod 0600 temp file " ++ tempPath host), written)
  else if !faults.rename then
    (.error ("set_bind_addr: rename " ++ tempPath host ++ " to " ++ configFilePath host), written)
  else (.ok (), { config := written.temp, temp := none })

def ConfigDir.setBindAddr (dir : ConfigDir) (faults : Faults) (bindAddr : String) :
    Except String Unit × ConfigDir :=
  if !faults.dataDir then (.error ("create data dir " ++ host.dataDir), dir)
  else
    let ensured := dir.ensureConfigFile host faults.template
    match ensured.1 with
    | .error e => (.error e, ensured.2)
    | .ok () =>
      match if faults.read then loadFile toml ensured.2.config else none with
      | none => (.error ("set_bind_addr: read " ++ configFilePath host), ensured.2)
      | some fileCfg =>
        match toml.toStringPretty { fileCfg with bindAddr := some bindAddr } with
        | none => (.error "set_bind_addr: serialize config", ensured.2)
        | some text => ensured.2.replace host faults text

end Source

section Template

def lineStartAfter : Bool -> List Char -> Bool
  | lineStart, [] => lineStart
  | _, c :: rest => lineStartAfter (c = '\n') rest

theorem onlyComments_append (lineStart : Bool) (before after : List Char) :
    onlyComments lineStart (before ++ after) =
      (onlyComments lineStart before && onlyComments (lineStartAfter lineStart before) after) := by
  induction before generalizing lineStart with
  | nil => cases lineStart <;> rfl
  | cons c rest ih =>
    cases lineStart with
    | true =>
      by_cases hash : c = '#'
      · simp [onlyComments, lineStartAfter, hash, ih]
      · by_cases empty : c = '\n' <;> simp [onlyComments, lineStartAfter, hash, empty, ih]
    | false => simp [onlyComments, lineStartAfter, ih]

theorem lineStartAfter_append (lineStart : Bool) (before after : List Char) :
    lineStartAfter lineStart (before ++ after) = lineStartAfter (lineStartAfter lineStart before) after := by
  induction before generalizing lineStart with
  | nil => rfl
  | cons c rest ih => exact ih _

structure Comments (lineStart : Bool) (text : String) (after : Bool) : Prop where
  only : onlyComments lineStart text.toList = true
  ends : lineStartAfter lineStart text.toList = after

theorem Comments.append {start middle after : Bool} {first second : String} (before : Comments start first middle)
    (rest : Comments middle second after) : Comments start (first ++ second) after := by
  constructor
  · rw [String.toList_append, onlyComments_append, before.only, before.ends, rest.only]
    rfl
  · rw [String.toList_append, lineStartAfter_append, before.ends, rest.ends]

theorem comments_within {text : String} (plain : '\n' ∉ text.toList) : Comments false text false := by
  have within (part : List Char) (plain : '\n' ∉ part) :
      onlyComments false part = true ∧ lineStartAfter false part = false := by
    induction part with
    | nil => exact ⟨rfl, rfl⟩
    | cons c part ih =>
      rw [List.mem_cons, not_or] at plain
      simpa [onlyComments, lineStartAfter, Ne.symm plain.1] using ih plain.2
  exact ⟨(within _ plain).1, (within _ plain).2⟩

theorem joinPath_plain {dir name : String} (dirPlain : '\n' ∉ dir.toList) (namePlain : '\n' ∉ name.toList) :
    '\n' ∉ (joinPath dir name).toList := by
  unfold joinPath
  split_ifs
  · simp [dirPlain, namePlain]
  · simp [dirPlain, namePlain]

variable {host : Host}

theorem template_onlyComments (oneLine : '\n' ∉ host.dataDir.toList) :
    onlyComments true (template host).toList = true := by
  have name : '\n' ∉ "muxrd.log".toList := by decide
  have head : Comments true
      ("# muxrd configuration file\n" ++
        "# All fields are optional; missing fields use built-in defaults.\n" ++
        "#\n" ++
        "# bind_addr = \"" ++ defaultBind ++ "\"\n" ++
        "# cert_dir  = \"") false := ⟨by decide +kernel, by decide +kernel⟩
  have ends : Comments false "\"\n" true := ⟨by decide, by decide⟩
  have logPath : Comments true "# log_path  = \"" false := ⟨by decide, by decide⟩
  have certDir : Comments false host.dataDir false := comments_within oneLine
  have log : Comments false (joinPath host.dataDir "muxrd.log") false := comments_within (joinPath_plain oneLine name)
  exact (((((head.append certDir).append ends).append logPath).append log).append ends).only

end Template

section Atomicity

variable {host : Host} {toml : Toml} {dir : ConfigDir} {faults : Faults} {bindAddr : String}

def ConfigDir.ensured (host : Host) (dir : ConfigDir) (faults : Faults) : Option (List UInt8) :=
  (dir.ensureConfigFile host faults.template).2.config

theorem ensured_some (present : dir.config.isSome = true) : dir.ensured host faults = dir.config := by
  simp [ConfigDir.ensured, ConfigDir.ensureConfigFile, present]

theorem ensured_none (absent : dir.config = none) :
    dir.ensured host faults = faults.template.run none (asBytes (template host)) := by
  unfold ConfigDir.ensured ConfigDir.ensureConfigFile
  rw [absent]
  simp only [Option.isSome_none, Bool.false_eq_true, if_false]
  split_ifs <;> rfl

/-- All that a call can end in. One that succeeds has put a whole new content in the file's place, made of the
entries it has read; one that fails leaves what it had ensured. -/
inductive Saves (host : Host) (toml : Toml) (dir : ConfigDir) (faults : Faults) (bindAddr : String) :
    Except String Unit × ConfigDir -> Prop
  | unmade {err : String} (unmade : faults.dataDir = false) : Saves host toml dir faults bindAddr (.error err, dir)
  | failed {err : String} {after : ConfigDir} (made : faults.dataDir = true)
      (kept : after.config = dir.ensured host faults) : Saves host toml dir faults bindAddr (.error err, after)
  | replaced {fileCfg : FileConfig} {text : String} {after : ConfigDir} (made : faults.dataDir = true)
      (read : loadFile toml (dir.ensured host faults) = some fileCfg)
      (serialized : toml.toStringPretty { fileCfg with bindAddr := some bindAddr } = some text)
      (config : after.config = some (asBytes text)) : Saves host toml dir faults bindAddr (.ok (), after)

theorem setBindAddr_saves : Saves host toml dir faults bindAddr (dir.setBindAddr host toml faults bindAddr) := by
  unfold ConfigDir.setBindAddr
  dsimp only
  split_ifs with noDir reads
  · exact .unmade (by simpa using noDir)
  all_goals
    have made : faults.dataDir = true := by simpa using noDir
    split
    · exact .failed made rfl
  · split
    · exact .failed made rfl
    · next fileCfg read =>
      split
      · exact .failed made rfl
      · next text serialized =>
        unfold ConfigDir.replace
        dsimp only
        split_ifs with temp
        · exact .failed made rfl
        · exact .failed made rfl
        · exact .failed made rfl
        · have whole : faults.temp = .whole := by simpa using temp
          exact .replaced made read serialized (by rw [whole]; rfl)
  · exact .failed made rfl

def Host.withoutEnv (host : Host) : Host :=
  { host with bindEnv := none }

structure Atomic (host : Host) (toml : Toml) (dir : ConfigDir) (result : Except String Unit × ConfigDir)
    (bindAddr : String) : Prop where
  saved : result.1 = .ok () -> ∃ config, result.2.resolve host.withoutEnv toml none = .ok config ∧
    config.bindAddr = bindAddr ∧ ∀ old, dir.resolve host.withoutEnv toml none = .ok old ->
      config.certDir = old.certDir ∧ config.logPath = old.logPath
  failed : ∀ err, result.1 = .error err ->
    ∀ bindOverride, result.2.resolve host toml bindOverride = dir.resolve host toml bindOverride

def Blank (host : Host) (toml : Toml) (dir : ConfigDir) (faults : Faults) : Prop :=
  faults.dataDir = true -> dir.config = none -> loadFile toml (dir.ensured host faults) = some .default

theorem loadFile_ensured (blank : Blank host toml dir faults) (made : faults.dataDir = true) :
    loadFile toml (dir.ensured host faults) = loadFile toml dir.config := by
  cases absent : dir.config with
  | none => exact blank made absent
  | some bytes => rw [ensured_some (by simp [absent]), absent]

theorem resolve_congr {first second : ConfigDir} (same : loadFile toml first.config = loadFile toml second.config)
    (bindOverride : Option String) : first.resolve host toml bindOverride = second.resolve host toml bindOverride := by
  rw [ConfigDir.resolve, same, ConfigDir.resolve]

theorem atomic_of_blank (lawful : toml.Lawful) (blank : Blank host toml dir faults) :
    Atomic host toml dir (dir.setBindAddr host toml faults bindAddr) bindAddr := by
  have saves := @setBindAddr_saves host toml dir faults bindAddr
  generalize dir.setBindAddr host toml faults bindAddr = result at saves
  cases saves with
  | unmade unmade => exact { saved := (fun ok => nomatch ok), failed := fun _ _ _ => rfl }
  | failed made kept =>
    refine { saved := (fun ok => nomatch ok), failed := fun _ _ => resolve_congr ?_ }
    rw [kept, loadFile_ensured blank made]
  | @replaced fileCfg text after made read serialized config =>
    rw [loadFile_ensured blank made] at read
    have reads : loadFile toml after.config = some { fileCfg with bindAddr := some bindAddr } := by
      simp [config, loadFile, lawful.roundTrip _ _ serialized]
    refine { saved := fun _ => ?_, failed := fun _ err => nomatch err }
    refine ⟨_, by rw [ConfigDir.resolve, reads], rfl, ?_⟩
    intro old before
    rw [ConfigDir.resolve, read] at before
    rw [← Except.ok.inj before]
    exact ⟨rfl, rfl⟩

theorem loads_of_atomic (atomic : Atomic host toml dir (dir.setBindAddr host toml faults bindAddr) bindAddr)
    (made : faults.dataDir = true) (absent : dir.config = none) :
    (loadFile toml (dir.ensured host faults)).isSome = true := by
  have saves := @setBindAddr_saves host toml dir faults bindAddr
  generalize dir.setBindAddr host toml faults bindAddr = result at saves atomic
  cases saves with
  | unmade unmade =>
    rw [made] at unmade
    cases unmade
  | @failed err after _ kept =>
    have same := atomic.failed err rfl none
    have before : loadFile toml dir.config = some .default := by rw [absent, loadFile]
    rw [ConfigDir.resolve, ConfigDir.resolve, before, kept] at same
    split at same
    · next read => simp [read]
    · cases same
  | replaced _ read serialized config => simp [read]

def CutsBetweenCharacters (host : Host) (dir : ConfigDir) (faults : Faults) : Prop :=
  faults.dataDir = true -> dir.config = none -> ∀ kept, faults.template = .cut kept ->
    isCharBoundary (template host) (min kept (asBytes (template host)).length) = true

theorem loadFile_template (lawful : toml.Lawful) (oneLine : '\n' ∉ host.dataDir.toList) {before after : String}
    (parts : template host = before ++ after) : loadFile toml (some (asBytes before)) = some .default := by
  have comments := template_onlyComments oneLine
  rw [parts, String.toList_append, onlyComments_append, Bool.and_eq_true] at comments
  simp only [loadFile, fromUtf8_asBytes, Option.map_some, Option.some.injEq]
  cases parsed : toml.fromStr before with
  | none => rfl
  | some fileCfg => exact lawful.comments before fileCfg comments.1 parsed

theorem loads_iff (absent : dir.config = none) :
    (loadFile toml (dir.ensured host faults)).isSome = true ↔
      ∀ kept, faults.template = .cut kept ->
        isCharBoundary (template host) (min kept (asBytes (template host)).length) = true := by
  rw [ensured_none absent]
  cases write : faults.template with
  | whole => simp [Write.run, loadFile]
  | refused => simp [Write.run, loadFile]
  | cut kept =>
    simp only [Write.run, loadFile, Option.isSome_map, Write.cut.injEq, forall_eq']
    rw [List.take_eq_take_min, fromUtf8_take (Nat.min_le_right _ _)]

theorem blank_of_cuts (lawful : toml.Lawful) (oneLine : '\n' ∉ host.dataDir.toList)
    (cuts : CutsBetweenCharacters host dir faults) : Blank host toml dir faults := by
  intro made absent
  rw [ensured_none absent]
  cases write : faults.template with
  | whole => exact loadFile_template lawful oneLine (String.append_empty).symm
  | refused => rfl
  | cut kept =>
    obtain ⟨before, after, parts, length⟩ := isCharBoundary_iff.mp (cuts made absent kept write)
    have whole : (asBytes (template host)).take kept = asBytes before := by
      rw [List.take_eq_take_min, ← length, parts, asBytes_append, List.take_left' rfl]
    rw [Write.run, whole]
    exact loadFile_template lawful oneLine parts

/-- The call is atomic whenever what stands in for an absent file reads as a file without entries, and it is
not when the template's write stops inside a character; for a data directory whose path is one line, there is
no third case. -/
theorem set_bind_addr_atomic (lawful : toml.Lawful) (dir : ConfigDir) (faults : Faults) (bindAddr : String) :
    (Blank host toml dir faults ->
      Atomic host toml dir (dir.setBindAddr host toml faults bindAddr) bindAddr) ∧
    (Atomic host toml dir (dir.setBindAddr host toml faults bindAddr) bindAddr ->
      CutsBetweenCharacters host dir faults) ∧
    ('\n' ∉ host.dataDir.toList -> CutsBetweenCharacters host dir faults -> Blank host toml dir faults) := by
  refine ⟨atomic_of_blank lawful, fun atomic made absent => ?_, blank_of_cuts lawful⟩
  exact (loads_iff absent).mp (loads_of_atomic atomic made absent)

def savedConfig : FileConfig :=
  { FileConfig.default with bindAddr := some "0.0.0.0:50051" }

def savedText : String := "bind_addr = \"0.0.0.0:50051\"\n"

def savedToml : Toml :=
  { toStringPretty := fun config => if config = savedConfig then some savedText else none
    fromStr := fun text =>
      if text = savedText then some savedConfig
      else if onlyComments true text.toList then some .default
      else none }

theorem savedToml_lawful : savedToml.Lawful := by
  constructor
  · intro config text serialized
    simp only [savedToml] at serialized ⊢
    split_ifs at serialized with same
    rw [← Option.some.inj serialized, if_pos rfl, same]
  · intro text config comments parsed
    simp only [savedToml, comments, if_true] at parsed
    split_ifs at parsed with saved
    · rw [saved] at comments
      exact absurd comments (by decide +kernel)
    · exact (Option.some.inj parsed).symm

def dataHost : Host :=
  { dataDir := "/données", bindEnv := none, sanEnv := "", reachableIps := [], locate := id }

def noFaults : Faults :=
  { dataDir := true, template := .whole, read := true, temp := .whole, chmod := true, rename := true }

def savedDir : ConfigDir :=
  { config := some (asBytes savedText), temp := none }

def absentDir : ConfigDir :=
  { config := none, temp := none }

theorem set_bind_addr_atomic_again :
    (savedDir.setBindAddr dataHost savedToml noFaults "0.0.0.0:50051").1 = .ok () ∧
      Atomic dataHost savedToml savedDir (savedDir.setBindAddr dataHost savedToml noFaults "0.0.0.0:50051")
        "0.0.0.0:50051" ∧
      Atomic dataHost savedToml absentDir (absentDir.setBindAddr dataHost savedToml noFaults "0.0.0.0:50051")
        "0.0.0.0:50051" := by
  have saved := @set_bind_addr_atomic dataHost savedToml savedToml_lawful savedDir noFaults "0.0.0.0:50051"
  have absent := @set_bind_addr_atomic dataHost savedToml savedToml_lawful absentDir noFaults "0.0.0.0:50051"
  refine ⟨by decide +kernel, saved.1 (fun _ nothing => nomatch nothing), absent.1 ?_⟩
  exact absent.2.2 (by decide) fun _ _ _ cut => nomatch cut

-- The disk is full in the middle of the data directory's name.
def fullDisk : Faults :=
  { noFaults with template := .cut 147 }

theorem template_cut_inside_character :
    ¬ Atomic dataHost savedToml absentDir (absentDir.setBindAddr dataHost savedToml fullDisk "0.0.0.0:50051")
      "0.0.0.0:50051" := by
  intro atomic
  have between := (loads_iff rfl).mp (loads_of_atomic atomic rfl rfl) 147 rfl
  exact absurd between (by decide +kernel)

end Atomicity

section Refinement

variable {host : Host} {toml : Toml} {dir : ConfigDir} {faults : Faults} {bindAddr : String} {file : ConfigFile}

def ConfigDir.parse (toml : Toml) (dir : ConfigDir) : Option ConfigFile :=
  match dir.config with
  | none => some .absent
  | some bytes => (fromUtf8 bytes).map fun raw => (toml.fromStr raw).elim .unparsable .parsed

theorem loadFile_eq_fields : loadFile toml dir.config = (dir.parse toml).map (·.fields) := by
  unfold loadFile ConfigDir.parse
  cases dir.config with
  | none => rfl
  | some bytes =>
    dsimp only
    rw [Option.map_map]
    congr 1
    funext raw
    cases parsed : toml.fromStr raw <;> simp [parsed, ConfigFile.fields]

theorem resolve_parse (readable : dir.parse toml = some file) (bindOverride : Option String) :
    dir.resolve host toml bindOverride = .ok (Config.resolve host file bindOverride) := by
  rw [ConfigDir.resolve, loadFile_eq_fields, readable]
  rfl

/-- On what it parses to, a call is a step of the configuration that the daemon's start reads. -/
theorem setBindAddr_refines (lawful : toml.Lawful) (blank : Blank host toml dir faults)
    (readable : dir.parse toml = some file) :
    ∃ failing after, (dir.setBindAddr host toml faults bindAddr).2.parse toml = some after ∧
      after.fields = (Config.setBindAddr file failing bindAddr).2.fields ∧
      ((dir.setBindAddr host toml faults bindAddr).1 = .ok () ↔ failing = none) := by
  have before : loadFile toml dir.config = some file.fields := by rw [loadFile_eq_fields, readable, Option.map_some]
  have saves := @setBindAddr_saves host toml dir faults bindAddr
  generalize dir.setBindAddr host toml faults bindAddr = result at saves
  cases saves with
  | unmade unmade => exact ⟨some .ensure, file, readable, rfl, by simp⟩
  | @failed err after made kept =>
    have same : loadFile toml after.config = some file.fields := by rw [kept, loadFile_ensured blank made, before]
    rw [loadFile_eq_fields, Option.map_eq_some_iff] at same
    obtain ⟨left, reads, fields⟩ := same
    refine ⟨some .rename, left, reads, ?_, by simp⟩
    rw [fields]
    cases file <;> rfl
  | @replaced fileCfg text after made read serialized config =>
    rw [loadFile_ensured blank made, before] at read
    refine ⟨none, .parsed { fileCfg with bindAddr := some bindAddr }, ?_, ?_, by simp⟩
    · simp [ConfigDir.parse, config, lawful.roundTrip _ _ serialized]
    · rw [← Option.some.inj read]
      cases file <;> rfl

end Refinement

end Muxrd.Config
