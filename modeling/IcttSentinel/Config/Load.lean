/-
Loading a configuration, packages/config/src/load.ts and safe-yaml.ts: safe YAML, the scan for inline secrets, the version
gate, the schema, the rules across fields. The digest is that of the document before validation, and it binds the loaded
value: two sources with one digest load to the same value.
-/
import IcttSentinel.Config.Canonical
import IcttSentinel.Config.Manifest

namespace IcttSentinel.Config

open IcttSentinel.Lib

/-! ## Safe YAML -/

structure SafeYamlLimits where
  maxBytes : Nat
  maxDepth : Nat
  maxNodes : Nat

def DEFAULT_YAML_LIMITS : SafeYamlLimits where
  maxBytes := 256 * 1024
  maxDepth := 24
  maxNodes := 20000

/-- What the YAML library gives for a text: the codes of its errors and warnings, and the plain data of the document, or
the message it throws, without aliases. -/
structure YamlDocument where
  errors : List String
  warnings : List String
  toJS : Except String ConfigValue

/-- `ConfigError`, and the `TypeError` of `canonicalize`. -/
inductive LoadError where
  | config (issues : List ConfigIssue) (summary : Option String)
  | type (message : String)

/-- The nodes that were counted, and what was found. -/
structure Measured where
  nodes : Nat
  issues : List ConfigIssue

def Measured.push (m : Measured) (code : ConfigErrorCode) (path message : String) : Measured :=
  { m with issues := m.issues ++ [{ code, path, message }] }

mutual

def measure (limits : SafeYamlLimits) : ConfigValue → Nat → String → Measured → Measured
  | value, depth, path, state =>
    if limits.maxDepth < depth then
      state.push .yamlTooDeep path ("nesting exceeds the maximum depth of " ++ toString limits.maxDepth)
    else if limits.maxNodes < state.nodes + 1 then
      { state with nodes := state.nodes + 1 }.push .yamlTooDeep path
        ("document exceeds the maximum of " ++ toString limits.maxNodes ++ " nodes")
    else
      match value with
      | .arr elements => measureElements limits elements 0 depth path { state with nodes := state.nodes + 1 }
      | .obj entries => measureEntries limits entries depth path { state with nodes := state.nodes + 1 }
      | _ => { state with nodes := state.nodes + 1 }

def measureElements (limits : SafeYamlLimits) : List ConfigValue → Nat → Nat → String → Measured → Measured
  | [], _, _, _, state => state
  | v :: elements, i, depth, path, state =>
    measureElements limits elements (i + 1) depth path
      (measure limits v (depth + 1) (path ++ "[" ++ toString i ++ "]") state)

def measureEntries (limits : SafeYamlLimits) : List (String × ConfigValue) → Nat → String → Measured → Measured
  | [], _, _, state => state
  | (k, v) :: entries, depth, path, state =>
    let state :=
      if k = "<<" then
        state.push .yamlMergeKeyForbidden path "merge keys (\x60<<\x60) are not allowed in configuration"
      else state
    measureEntries limits entries depth path
      (measure limits v (depth + 1) (if path = "" then k else path ++ "." ++ k) state)

end

/-- `/alias/i`. -/
def mentionsAlias (message : String) : Bool :=
  (message.toList.map Char.toLower).tails.any ("alias".toList.isPrefixOf ·)

/-- The process around the loader: the YAML library, the scan for inline secrets, the schemas with the fields the rules
read, and SHA-256 in hexadecimal. -/
structure LoadHost (M P : Type) where
  parseDocument : String → Option YamlDocument
  findInlineSecrets : ConfigValue → List ConfigIssue
  zManifest : ConfigValue → Except (List (List (Nat ⊕ String) × String)) M
  manifestFields : M → Manifest
  zPolicy : ConfigValue → Except (List (List (Nat ⊕ String) × String)) P
  sha256 : String → String

def syntaxIssue (message : String) : ConfigIssue := { code := .yamlSyntax, path := "", message }

def warningIssue (code : String) : ConfigIssue where
  code := if code = "TAG_RESOLVE_FAILED" then .yamlUnresolvedTag else .yamlSyntax
  path := ""
  message := "unsupported YAML construct (" ++ code ++ "); only the core schema is accepted"

/-- The plain data of a document without errors. -/
def documentData (doc : YamlDocument) : Except LoadError ConfigValue :=
  let issues := doc.errors.map (fun code => syntaxIssue ("invalid YAML (" ++ code ++ ")")) ++ doc.warnings.map warningIssue
  if issues ≠ [] then .error (.config issues none)
  else
    match doc.toJS with
    | .ok value => .ok value
    | .error message =>
      if mentionsAlias message then
        .error (.config [{
          code := .yamlAliasForbidden
          path := ""
          message := "anchors and aliases are not allowed in configuration" }] none)
      else .error (.config [syntaxIssue "the document could not be converted to plain data"] none)

/-- The entries of a mapping at the root. -/
def rootEntries : ConfigValue → Except LoadError (List (String × ConfigValue))
  | .obj entries => .ok entries
  | _ => .error (.config [{ code := .yamlNotAMapping, path := "", message := "the document root must be a mapping" }] none)

section Loader

variable {M P T : Type} (host : LoadHost M P)

/-- `parseSafeYaml`: the entries of the document, a mapping. -/
def parseSafeYaml (source : String) (limits : SafeYamlLimits) : Except LoadError (List (String × ConfigValue)) :=
  if limits.maxBytes < source.utf8ByteSize then
    .error (.config [{
      code := .yamlTooLarge
      path := ""
      message := "document is " ++ toString source.utf8ByteSize ++ " bytes, which exceeds the maximum of " ++
        toString limits.maxBytes }] none)
  else
    match host.parseDocument source with
    | none => .error (.config [syntaxIssue "invalid YAML"] none)
    | some doc => do
      let value ← documentData doc
      let issues := (measure limits value 0 "" ⟨0, []⟩).issues
      if issues ≠ [] then .error (.config issues none) else rootEntries value

/-! ## Loading -/

/-- `raw[key]`. -/
def entryValue (entries : List (String × ConfigValue)) (key : String) : ConfigValue :=
  ((entries.find? (·.1 = key)).map (·.2)).getD .undefined

def KNOWN_API_GROUP : String := "sentinel.ictt/"

def checkApiVersion (raw : List (String × ConfigValue)) (supported : List String) (expectedKind : String) :
    List ConfigIssue :=
  match entryValue raw "apiVersion" with
  | .str apiVersion =>
    match entryValue raw "kind" with
    | .str kind =>
      if kind ≠ expectedKind then [{ code := .schema, path := "kind", message := "must be \"" ++ expectedKind ++ "\"" }]
      else if supported.contains apiVersion then []
      else
        [{ code := if KNOWN_API_GROUP.isPrefixOf apiVersion then .unsupportedApiVersion else .unknownApiVersion
           path := "apiVersion"
           message := "\"" ++ apiVersion ++ "\" is not understood by this build; supported: " ++
             ", ".intercalate supported }]
    | _ => [{ code := .schema, path := "kind", message := "must be \"" ++ expectedKind ++ "\"" }]
  | _ => [{ code := .unknownApiVersion, path := "apiVersion", message := "is required and must be a string" }]

/-- `zodIssues`: a number in a path is an index. -/
def zodIssue (zod : List (Nat ⊕ String) × String) : ConfigIssue where
  code := .schema
  path := ".".intercalate (zod.1.map fun
    | .inl i => "[" ++ toString i ++ "]"
    | .inr k => k)
  message := zod.2

structure LoadedDocument (T : Type) where
  value : T
  digest : String

/-- The issues are thrown, if there are any. -/
def refuse (issues : List ConfigIssue) (summary : Option String) : Except LoadError Unit :=
  if issues = [] then .ok () else .error (.config issues summary)

def loadDocument (source : String) (supported : List String) (expectedKind : String)
    (schema : ConfigValue → Except (List (List (Nat ⊕ String) × String)) T) (extra : T → List ConfigIssue)
    (limits : SafeYamlLimits) : Except LoadError (LoadedDocument T) := do
  let raw ← parseSafeYaml host source limits
  refuse (host.findInlineSecrets (.obj raw)) (some "configuration contains inline credential material")
  refuse (checkApiVersion raw supported expectedKind) none
  let value ← (schema (.obj raw)).mapError fun issues => .config (issues.map zodIssue) none
  refuse (extra value) none
  let digest ← (canonicalDigest host.sha256 (.obj raw)).mapError .type
  return { value, digest }

def SUPPORTED_MANIFEST_API_VERSIONS : List String := ["sentinel.ictt/v1alpha1"]

def SUPPORTED_POLICY_API_VERSIONS : List String := ["sentinel.ictt/v1alpha1"]

def loadManifest (source : String) (limits : SafeYamlLimits) : Except LoadError (LoadedDocument M) :=
  loadDocument host source SUPPORTED_MANIFEST_API_VERSIONS "ICTTDeployment" host.zManifest
    (fun m => checkManifestInvariants (host.manifestFields m)) limits

def loadPolicy (source : String) (limits : SafeYamlLimits) : Except LoadError (LoadedDocument P) :=
  loadDocument host source SUPPORTED_POLICY_API_VERSIONS "SentinelPolicy" host.zPolicy (fun _ => []) limits

end Loader

/-! ## Within the limits -/

mutual

def ConfigValue.nodes : ConfigValue → Nat
  | .arr elements => 1 + nodesOfElements elements
  | .obj entries => 1 + nodesOfEntries entries
  | _ => 1

def nodesOfElements : List ConfigValue → Nat
  | [] => 0
  | v :: elements => v.nodes + nodesOfElements elements

def nodesOfEntries : List (String × ConfigValue) → Nat
  | [] => 0
  | (_, v) :: entries => v.nodes + nodesOfEntries entries

end

mutual

/-- The value is nested no deeper than that, and has no merge key. -/
def ConfigValue.fits : ConfigValue → Nat → Bool
  | .arr elements, depth => (elements.isEmpty || decide (0 < depth)) && elementsFit elements (depth - 1)
  | .obj entries, depth => (entries.isEmpty || decide (0 < depth)) && entriesFit entries (depth - 1)
  | _, _ => true

def elementsFit : List ConfigValue → Nat → Bool
  | [], _ => true
  | v :: elements, depth => v.fits depth && elementsFit elements depth

def entriesFit : List (String × ConfigValue) → Nat → Bool
  | [], _ => true
  | (k, v) :: entries, depth => decide (k ≠ "<<") && v.fits depth && entriesFit entries depth

end

mutual

/-- A value within the limits is counted, and nothing is found in it. -/
theorem measure_fits (limits : SafeYamlLimits) : ∀ (v : ConfigValue) (depth : Nat) (path : String) (state : Measured),
    depth ≤ limits.maxDepth → v.fits (limits.maxDepth - depth) = true → state.nodes + v.nodes ≤ limits.maxNodes →
      measure limits v depth path state = ⟨state.nodes + v.nodes, state.issues⟩ := by
  intro v depth path state hdepth hfits hnodes
  cases v with
  | arr elements =>
    rw [ConfigValue.fits, Bool.and_eq_true, Bool.or_eq_true, decide_eq_true_eq] at hfits
    rw [ConfigValue.nodes] at hnodes ⊢
    rw [measure, if_neg (by omega), if_neg (by omega),
      measureElements_fits limits elements 0 depth path ⟨state.nodes + 1, state.issues⟩
        (hfits.1.imp List.isEmpty_iff.1 (by omega)) (by rw [Nat.sub_add_eq]; exact hfits.2) (by dsimp only; omega),
      Nat.add_assoc]
  | obj entries =>
    rw [ConfigValue.fits, Bool.and_eq_true, Bool.or_eq_true, decide_eq_true_eq] at hfits
    rw [ConfigValue.nodes] at hnodes ⊢
    rw [measure, if_neg (by omega), if_neg (by omega),
      measureEntries_fits limits entries depth path ⟨state.nodes + 1, state.issues⟩
        (hfits.1.imp List.isEmpty_iff.1 (by omega)) (by rw [Nat.sub_add_eq]; exact hfits.2) (by dsimp only; omega),
      Nat.add_assoc]
  | _ =>
    rw [ConfigValue.nodes] at hnodes ⊢
    · rw [measure, if_neg (by omega), if_neg (by omega)] <;> simp
    all_goals simp

theorem measureElements_fits (limits : SafeYamlLimits) : ∀ (elements : List ConfigValue) (i depth : Nat) (path : String)
    (state : Measured), elements = [] ∨ depth < limits.maxDepth →
      elementsFit elements (limits.maxDepth - (depth + 1)) = true →
        state.nodes + nodesOfElements elements ≤ limits.maxNodes →
          measureElements limits elements i depth path state =
            ⟨state.nodes + nodesOfElements elements, state.issues⟩
  | [], _, _, _, _, _, _, _ => rfl
  | v :: elements, i, depth, path, state, hdepth, hfits, hnodes => by
    rw [elementsFit, Bool.and_eq_true] at hfits
    rw [nodesOfElements] at hnodes ⊢
    have hlt : depth < limits.maxDepth := hdepth.resolve_left (List.cons_ne_nil v elements)
    rw [measureElements, measure_fits limits v (depth + 1) _ state hlt hfits.1 (by omega),
      measureElements_fits limits elements (i + 1) depth path _ (Or.inr hlt) hfits.2 (by dsimp only; omega), Nat.add_assoc]

theorem measureEntries_fits (limits : SafeYamlLimits) : ∀ (entries : List (String × ConfigValue)) (depth : Nat)
    (path : String) (state : Measured), entries = [] ∨ depth < limits.maxDepth →
      entriesFit entries (limits.maxDepth - (depth + 1)) = true →
        state.nodes + nodesOfEntries entries ≤ limits.maxNodes →
          measureEntries limits entries depth path state = ⟨state.nodes + nodesOfEntries entries, state.issues⟩
  | [], _, _, _, _, _, _ => rfl
  | (k, v) :: entries, depth, path, state, hdepth, hfits, hnodes => by
    rw [entriesFit, Bool.and_eq_true, Bool.and_eq_true, decide_eq_true_eq] at hfits
    rw [nodesOfEntries] at hnodes ⊢
    have hlt : depth < limits.maxDepth := hdepth.resolve_left (List.cons_ne_nil _ entries)
    rw [measureEntries, if_neg hfits.1.1,
      measure_fits limits v (depth + 1) _ state hlt hfits.1.2 (by omega),
      measureEntries_fits limits entries depth path _ (Or.inr hlt) hfits.2 (by dsimp only; omega), Nat.add_assoc]

end

/-- A mapping within the limits is what is parsed. -/
theorem parseSafeYaml_ok {M P : Type} {host : LoadHost M P} {source : String} {limits : SafeYamlLimits}
    {entries : List (String × ConfigValue)} (hbytes : source.utf8ByteSize ≤ limits.maxBytes)
    (hdocument : host.parseDocument source = some { errors := [], warnings := [], toJS := .ok (.obj entries) })
    (hfits : ConfigValue.fits (.obj entries) limits.maxDepth = true)
    (hnodes : ConfigValue.nodes (.obj entries) ≤ limits.maxNodes) : parseSafeYaml host source limits = .ok entries := by
  have hmeasured := measure_fits limits (.obj entries) 0 "" ⟨0, []⟩ (Nat.zero_le _) (by simpa using hfits) (by simpa using hnodes)
  unfold parseSafeYaml
  rw [if_neg (not_lt.2 hbytes), hdocument]
  have hdata : documentData { errors := [], warnings := [], toJS := .ok (.obj entries) } = .ok (.obj entries) := rfl
  dsimp only
  rw [hdata]
  show (if (measure limits (.obj entries) 0 "" ⟨0, []⟩).issues ≠ [] then _ else rootEntries (.obj entries)) = _
  rw [hmeasured, if_neg (not_not.2 rfl)]
  rfl

/-! ## What is parsed -/

/-- Records, arrays, strings, numbers, booleans and null. -/
inductive YamlData : ConfigValue → Prop
  | null : YamlData .null
  | bool (b : Bool) : YamlData (.bool b)
  | str (s : String) : YamlData (.str s)
  | number (n : ConfigNumber) : YamlData (.number n)
  | arr {elements : List ConfigValue} (h : ∀ v ∈ elements, YamlData v) : YamlData (.arr elements)
  | obj {entries : List (String × ConfigValue)} (hkeys : (entries.map Prod.fst).Nodup)
    (h : ∀ e ∈ entries, YamlData e.2) : YamlData (.obj entries)

theorem canonicalizeElements_ok {elements : List ConfigValue} {texts : List String}
    (h : canonicalizeElements elements = .ok texts) : ∀ v ∈ elements, ∃ text, canonicalize v = .ok text := by
  induction elements generalizing texts with
  | nil => exact fun v hv => absurd hv List.not_mem_nil
  | cons u elements ih =>
    rw [canonicalizeElements] at h
    split at h
    · cases h
    · rename_i text hu
      intro v hv
      rcases List.mem_cons.1 hv with rfl | hv
      · exact ⟨text, hu⟩
      · cases hrest : canonicalizeElements elements with
        | error e => rw [hrest] at h; cases h
        | ok rest => exact ih hrest v hv

theorem mem_canonicalizeEntries {entries : List (String × ConfigValue)} {e : String × ConfigValue} (he : e ∈ entries)
    (hvalue : e.2 ≠ .undefined) : (e.1, canonicalize e.2) ∈ canonicalizeEntries entries := by
  induction entries with
  | nil => cases he
  | cons head entries ih =>
    obtain ⟨k, v⟩ := head
    rcases List.mem_cons.1 he with rfl | he
    · rw [canonicalizeEntries]
      · exact List.mem_cons_self
      · exact hvalue
    · have hrest := ih he
      unfold canonicalizeEntries
      split
      · rename_i heq
        cases heq
      · rename_i heq
        cases heq
        exact hrest
      · rename_i heq
        cases heq
        exact List.mem_cons_of_mem _ hrest

/-- What is parsed and has a text is plain. -/
theorem YamlData.plain {v : ConfigValue} (h : YamlData v) {text : String} (htext : canonicalize v = .ok text) :
    PlainDocument v := by
  induction h generalizing text with
  | null => exact .null
  | bool b => exact .bool b
  | str s => exact .str s
  | number n =>
    cases n with
    | integer n => exact .integer n
    | fraction => cases htext
    | nonFinite => cases htext
  | @arr elements h ih =>
    rw [canonicalize] at htext
    cases helements : canonicalizeElements elements with
    | error e => rw [helements] at htext; cases htext
    | ok texts =>
      refine .arr fun v hv => ?_
      obtain ⟨t, ht⟩ := canonicalizeElements_ok helements v hv
      exact ih v hv ht
  | @obj entries hkeys h ih =>
    rw [canonicalize] at htext
    cases hparts : (sortOn entryUnits (canonicalizeEntries entries)).mapM entryPart with
    | error e => rw [hparts] at htext; cases htext
    | ok parts =>
      refine .obj hkeys fun e he => ?_
      have hvalue : e.2 ≠ .undefined := by
        intro hundefined
        have hdata := h e he
        rw [hundefined] at hdata
        cases hdata
      obtain ⟨part, -, hpart⟩ := mapM_ok_mem hparts (mem_sortOn.2 (mem_canonicalizeEntries he hvalue))
      cases htext : canonicalize e.2 with
      | error message =>
        rw [entryPart, htext] at hpart
        cases hpart
      | ok t => exact ih e he htext

section Binding

variable {M P T : Type} {host : LoadHost M P}

/-- The YAML library yields plain data; a record has no key twice. -/
def LoadHost.YieldsData (host : LoadHost M P) : Prop :=
  ∀ source doc value, host.parseDocument source = some doc → doc.toJS = .ok value → YamlData value

/-- A schema does not see the order of keys. -/
def OrderFree {ε : Type} (schema : ConfigValue → Except ε T) : Prop :=
  ∀ v w value, PlainDocument v → SameDocument v w → schema v = .ok value → schema w = .ok value

/-- The texts of two sources have different digests, if they differ. -/
def LoadHost.DigestsApart (host : LoadHost M P) (source source' : String) (limits limits' : SafeYamlLimits) : Prop :=
  ∀ raw raw' text text', parseSafeYaml host source limits = .ok raw → parseSafeYaml host source' limits' = .ok raw' →
    canonicalize (.obj raw) = .ok text → canonicalize (.obj raw') = .ok text' →
      host.sha256 text = host.sha256 text' → text = text'

theorem parseSafeYaml_data (hyaml : host.YieldsData) {source : String} {limits : SafeYamlLimits}
    {raw : List (String × ConfigValue)} (h : parseSafeYaml host source limits = .ok raw) : YamlData (.obj raw) := by
  unfold parseSafeYaml at h
  split at h
  · cases h
  · split at h
    · cases h
    · rename_i doc hdoc
      obtain ⟨value, hvalue, h⟩ := bind_eq_ok.1 h
      dsimp only at h
      split at h
      · cases h
      · have hroot : value = .obj raw := by
          cases value <;> simp_all [rootEntries]
        unfold documentData at hvalue
        dsimp only at hvalue
        split at hvalue
        · cases hvalue
        · split at hvalue
          · rename_i data hdata
            cases hvalue
            exact hroot ▸ hyaml source doc _ hdoc hdata
          · split at hvalue <;> cases hvalue

theorem mapError_eq_ok {ε ε' α : Type} {f : ε → ε'} {x : Except ε α} {a : α} : x.mapError f = .ok a ↔ x = .ok a := by
  cases x <;> simp [Except.mapError]

theorem refuse_eq_ok {issues : List ConfigIssue} {summary : Option String} {u : Unit} :
    refuse issues summary = .ok u ↔ issues = [] := by
  unfold refuse
  split
  · exact iff_of_true rfl (by assumption)
  · exact iff_of_false nofun (by assumption)

/-- A loaded document passed every stage, and has the value of its schema and the digest of what was parsed. -/
theorem loadDocument_eq_ok {source : String} {supported : List String} {expectedKind : String}
    {schema : ConfigValue → Except (List (List (Nat ⊕ String) × String)) T} {extra : T → List ConfigIssue}
    {limits : SafeYamlLimits} {loaded : LoadedDocument T} :
    loadDocument host source supported expectedKind schema extra limits = .ok loaded ↔
      ∃ raw, parseSafeYaml host source limits = .ok raw ∧ host.findInlineSecrets (.obj raw) = [] ∧
        checkApiVersion raw supported expectedKind = [] ∧ schema (.obj raw) = .ok loaded.value ∧ extra loaded.value = [] ∧
          canonicalDigest host.sha256 (.obj raw) = .ok loaded.digest := by
  unfold loadDocument
  constructor
  · intro h
    obtain ⟨raw, hraw, h⟩ := bind_eq_ok.1 h
    obtain ⟨_, hinline, h⟩ := bind_eq_ok.1 h
    obtain ⟨_, hversion, h⟩ := bind_eq_ok.1 h
    obtain ⟨value, hvalue, h⟩ := bind_eq_ok.1 h
    obtain ⟨_, hextra, h⟩ := bind_eq_ok.1 h
    obtain ⟨digest, hdigest, h⟩ := bind_eq_ok.1 h
    cases h
    exact ⟨raw, hraw, refuse_eq_ok.1 hinline, refuse_eq_ok.1 hversion, mapError_eq_ok.1 hvalue, refuse_eq_ok.1 hextra,
      mapError_eq_ok.1 hdigest⟩
  · rintro ⟨raw, hraw, hinline, hversion, hvalue, hextra, hdigest⟩
    exact bind_eq_ok.2 ⟨raw, hraw, bind_eq_ok.2 ⟨(), refuse_eq_ok.2 hinline, bind_eq_ok.2 ⟨(), refuse_eq_ok.2 hversion,
      bind_eq_ok.2 ⟨_, mapError_eq_ok.2 hvalue, bind_eq_ok.2 ⟨(), refuse_eq_ok.2 hextra,
        bind_eq_ok.2 ⟨_, mapError_eq_ok.2 hdigest, rfl⟩⟩⟩⟩⟩⟩

theorem canonicalDigest_eq_ok {sha256 : String → String} {value : ConfigValue} {digest : String} :
    canonicalDigest sha256 value = .ok digest ↔
      ∃ text, canonicalize value = .ok text ∧ digest = "sha256:" ++ sha256 text := by
  unfold canonicalDigest
  cases canonicalize value with
  | error message => simp [Except.map]
  | ok text => simp [Except.map, eq_comm]

/-- Documents of one digest load to one value. -/
theorem loadDocument_bound (hyaml : host.YieldsData) {source source' : String} {supported : List String}
    {expectedKind : String} {schema : ConfigValue → Except (List (List (Nat ⊕ String) × String)) T}
    (hschema : OrderFree schema) {extra : T → List ConfigIssue} {limits limits' : SafeYamlLimits}
    {loaded loaded' : LoadedDocument T} (hapart : host.DigestsApart source source' limits limits')
    (h : loadDocument host source supported expectedKind schema extra limits = .ok loaded)
    (h' : loadDocument host source' supported expectedKind schema extra limits' = .ok loaded')
    (hdigest : loaded.digest = loaded'.digest) : loaded.value = loaded'.value := by
  obtain ⟨raw, hraw, -, -, hvalue, -, hloaded⟩ := loadDocument_eq_ok.1 h
  obtain ⟨raw', hraw', -, -, hvalue', -, hloaded'⟩ := loadDocument_eq_ok.1 h'
  obtain ⟨text, htext, hloaded⟩ := canonicalDigest_eq_ok.1 hloaded
  obtain ⟨text', htext', hloaded'⟩ := canonicalDigest_eq_ok.1 hloaded'
  rw [hloaded, hloaded', String.append_right_inj] at hdigest
  have hsame : text = text' := hapart raw raw' text text' hraw hraw' htext htext' hdigest
  have hplain := (parseSafeYaml_data hyaml hraw).plain htext
  have hplain' := (parseSafeYaml_data hyaml hraw').plain htext'
  have htexts : canonicalText (.obj raw) = canonicalText (.obj raw') :=
    calc canonicalText (.obj raw) = text := Except.ok.inj (hplain.text.symm.trans htext)
      _ = text' := hsame
      _ = canonicalText (.obj raw') := Except.ok.inj (htext'.symm.trans hplain'.text)
  have hdocument : SameDocument (.obj raw) (.obj raw') := (canonicalText_eq_iff hplain hplain').1 htexts
  exact Except.ok.inj ((hschema _ _ _ hplain hdocument hvalue).symm.trans hvalue')

/-- The canonical text is that of a document up to the order of its keys, and its digest binds what is loaded. -/
theorem digest_binds_document (host : LoadHost M P) (hyaml : host.YieldsData) (hmanifest : OrderFree host.zManifest)
    (hpolicy : OrderFree host.zPolicy) :
    (∀ v w, PlainDocument v → PlainDocument w →
      ∃ text text', canonicalize v = .ok text ∧ canonicalize w = .ok text' ∧ (text = text' ↔ SameDocument v w)) ∧
      ∀ source source' limits limits', host.DigestsApart source source' limits limits' →
        (∀ loaded loaded', loadManifest host source limits = .ok loaded → loadManifest host source' limits' = .ok loaded' →
          loaded.digest = loaded'.digest → loaded.value = loaded'.value) ∧
        (∀ loaded loaded', loadPolicy host source limits = .ok loaded → loadPolicy host source' limits' = .ok loaded' →
          loaded.digest = loaded'.digest → loaded.value = loaded'.value) := by
  refine ⟨fun v w hv hw => ⟨_, _, hv.text, hw.text, canonicalText_eq_iff hv hw⟩, ?_⟩
  intro source source' limits limits' hapart
  constructor
  · intro loaded loaded' h h' hdigest
    exact loadDocument_bound hyaml hmanifest hapart h h' hdigest
  · intro loaded loaded' h h' hdigest
    exact loadDocument_bound hyaml hpolicy hapart h h' hdigest

end Binding

/-! ## A policy in two orders -/

def smallNumber (n : Fin 65536) : ConfigValue := .number (.integer (.ofSafe n.val (n.isLt.trans (by decide))))

def strictMetadata : ConfigValue := .obj [("name", .str "strict-default")]

def strictEvidence : List (String × ConfigValue) :=
  [("maxAgeSeconds", smallNumber 300), ("expiresAfterSeconds", smallNumber 3600),
    ("requireReproducibleDigest", .bool true)]

def strictModes : ConfigValue :=
  .obj [
    ("canonicalErc20", .obj [("reconciliation", .str "deterministic"), ("onQuietSectionMismatch", .str "WARN"),
      ("onCausalBreach", .str "CRITICAL")]),
    ("native", .obj [("claim", .str "reported-supply-upper-bound"),
      ("allowedAssessments", .arr [.str "sufficient", .str "indeterminate", .str "unknown"]),
      ("onBoundExceeded", .str "indeterminate"), ("allowExactSupplyClaim", .bool false)]),
    ("unsupported", .obj [("behaviour", .str "UNKNOWN"), ("failClosed", .bool true)])]

def strictSpec : List (String × ConfigValue) :=
  [("verdictPrecedence", .arr [.str "CRITICAL", .str "UNKNOWN", .str "WARN", .str "OK"]),
    ("evidence", .obj strictEvidence),
    ("quorum", .obj [("minIndependentTrustDomains", smallNumber 2), ("onDisagreement", .str "UNKNOWN"),
      ("onInsufficientWitnesses", .str "UNKNOWN")]),
    ("dataPath", .obj [("requestTimeoutMs", smallNumber 5000), ("maxRetries", smallNumber 2),
      ("retryBackoffMs", smallNumber 250), ("maxLogRangeBlocks", smallNumber 2000), ("allowLatestFallback", .bool false),
      ("webhookMayProduceVerdict", .bool false)]),
    ("tokenModes", strictModes),
    ("configDrift", .obj [("LOCKED", .str "CRITICAL"), ("APPROVED_CHANGE", .str "WARN"), ("OBSERVE_ONLY", .str "WARN"),
      ("candidateRemote", .str "WARN"), ("unknownFingerprint", .str "UNKNOWN")])]

def unnamedPolicy : List (String × ConfigValue) :=
  [("apiVersion", .str "sentinel.ictt/v1alpha1"), ("metadata", strictMetadata), ("spec", .obj strictSpec)]

def strictPolicy : List (String × ConfigValue) := ("kind", .str "SentinelPolicy") :: unnamedPolicy

def reorderedPolicy : List (String × ConfigValue) := unnamedPolicy ++ [("kind", .str "SentinelPolicy")]

theorem strictPolicy_same : SameDocument (.obj strictPolicy) (.obj reorderedPolicy) :=
  .order (List.perm_append_singleton _ _).symm

theorem strictPolicy_plain : PlainDocument (.obj strictPolicy) := by
  simp [strictPolicy, unnamedPolicy, strictMetadata, strictSpec, strictEvidence, strictModes, smallNumber, plain_obj, plain_arr,
    PlainDocument.str, PlainDocument.bool, PlainDocument.integer]

def unnamedSource : String :=
  "apiVersion: sentinel.ictt/v1alpha1\nmetadata:\n  name: strict-default\nspec:\n" ++
  "  verdictPrecedence: [CRITICAL, UNKNOWN, WARN, OK]\n  evidence:\n    maxAgeSeconds: 300\n" ++
  "    expiresAfterSeconds: 3600\n    requireReproducibleDigest: true\n  quorum:\n    minIndependentTrustDomains: 2\n" ++
  "    onDisagreement: UNKNOWN\n    onInsufficientWitnesses: UNKNOWN\n  dataPath:\n    requestTimeoutMs: 5000\n" ++
  "    maxRetries: 2\n    retryBackoffMs: 250\n    maxLogRangeBlocks: 2000\n    allowLatestFallback: false\n" ++
  "    webhookMayProduceVerdict: false\n  tokenModes:\n    canonicalErc20:\n      reconciliation: deterministic\n" ++
  "      onQuietSectionMismatch: WARN\n      onCausalBreach: CRITICAL\n    native:\n" ++
  "      claim: reported-supply-upper-bound\n      allowedAssessments: [sufficient, indeterminate, unknown]\n" ++
  "      onBoundExceeded: indeterminate\n      allowExactSupplyClaim: false\n    unsupported:\n" ++
  "      behaviour: UNKNOWN\n      failClosed: true\n  configDrift:\n    LOCKED: CRITICAL\n    APPROVED_CHANGE: WARN\n" ++
  "    OBSERVE_ONLY: WARN\n    candidateRemote: WARN\n    unknownFingerprint: UNKNOWN\n"

def strictSource : String := "kind: SentinelPolicy\n" ++ unnamedSource

def reorderedSource : String := "# The same policy.\n" ++ unnamedSource ++ "kind: SentinelPolicy\n"

/-- Limits that just admit the longer text. -/
def strictLimits : SafeYamlLimits := { DEFAULT_YAML_LIMITS with maxBytes := reorderedSource.utf8ByteSize }

def strictValue : Policy where
  minIndependentTrustDomains := 2
  maxAgeSeconds := 300
  expiresAfterSeconds := 3600
  maxRetries := 2
  maxLogRangeBlocks := 2000
  quorum_bounds := two_quorum_bounds

/-- The SHA-256 digest of the policy. -/
def strictSha256 (text : String) : String :=
  if text = canonicalText (.obj strictPolicy) then "9cf0b471904d577aa355b9c8556d99bbefe2490dcbc22cbbd8f088fa124378b8" else ""

/-- A process that parses the two texts, and whose schemas accept the one policy. -/
def strictHost : LoadHost Manifest Policy where
  parseDocument source :=
    if source = reorderedSource then some { errors := [], warnings := [], toJS := .ok (.obj reorderedPolicy) }
    else if source = strictSource then some { errors := [], warnings := [], toJS := .ok (.obj strictPolicy) }
    else none
  findInlineSecrets _ := []
  zManifest _ := .error [([.inr "kind"], "Invalid input: expected \"ICTTDeployment\"")]
  manifestFields m := m
  zPolicy value :=
    if canonicalize value = .ok (canonicalText (.obj strictPolicy)) then .ok strictValue
    else .error [([], "Invalid input")]
  sha256 := strictSha256

theorem strictHost_yieldsData : strictHost.YieldsData := by
  have hdata : ∀ {v : ConfigValue}, PlainDocument v → YamlData v := by
    intro v h
    induction h with
    | null => exact .null
    | bool b => exact .bool b
    | str s => exact .str s
    | integer n => exact .number _
    | arr _ ih => exact .arr ih
    | obj hkeys _ ih => exact .obj hkeys ih
  intro source doc value hdoc hvalue
  unfold strictHost at hdoc
  dsimp only at hdoc
  split at hdoc
  · cases hdoc
    cases hvalue
    exact hdata (strictPolicy_same.text.1.1 strictPolicy_plain)
  · split at hdoc
    · cases hdoc
      cases hvalue
      exact hdata strictPolicy_plain
    · cases hdoc

theorem strictHost_orderFree : OrderFree strictHost.zPolicy := by
  intro v w value hplain hsame hvalue
  obtain ⟨hw, htexts⟩ := hsame.text
  unfold strictHost at hvalue ⊢
  dsimp only at hvalue ⊢
  split at hvalue
  · rename_i htext
    have htext' : canonicalize w = .ok (canonicalText (.obj strictPolicy)) := by
      rw [(hw.1 hplain).text, ← htexts hplain, ← htext, hplain.text]
    rw [if_pos htext', ← hvalue]
  · cases hvalue

/-- A source whose document is the policy, in whatever order, loads to its value. -/
theorem loadPolicy_strict {source : String} {raw : List (String × ConfigValue)}
    (hraw : parseSafeYaml strictHost source strictLimits = .ok raw) (hsame : SameDocument (.obj strictPolicy) (.obj raw))
    (hversion : checkApiVersion raw SUPPORTED_POLICY_API_VERSIONS "SentinelPolicy" = []) :
    loadPolicy strictHost source strictLimits =
      .ok ⟨strictValue, "sha256:" ++ strictSha256 (canonicalText (.obj strictPolicy))⟩ := by
  obtain ⟨hplain, htexts⟩ := hsame.text
  have htext : canonicalize (.obj raw) = .ok (canonicalText (.obj strictPolicy)) := by
    rw [htexts strictPolicy_plain]
    exact (hplain.1 strictPolicy_plain).text
  have hschema : strictHost.zPolicy (.obj raw) = .ok strictValue := if_pos htext
  have hdigest : canonicalDigest strictSha256 (.obj raw) =
      .ok ("sha256:" ++ strictSha256 (canonicalText (.obj strictPolicy))) := canonicalDigest_eq_ok.2 ⟨_, htext, rfl⟩
  exact loadDocument_eq_ok.2 ⟨raw, hraw, rfl, hversion, hschema, rfl, hdigest⟩

theorem strictSource_parsed : parseSafeYaml strictHost strictSource strictLimits = .ok strictPolicy := by
  have hsizes : ∀ comment base kind : String, 0 < comment.utf8ByteSize →
      (kind ++ base).utf8ByteSize < (comment ++ base ++ kind).utf8ByteSize := by
    intro comment base kind hcomment
    rw [String.utf8ByteSize_append, String.utf8ByteSize_append, String.utf8ByteSize_append]
    omega
  have hlonger : strictSource.utf8ByteSize < reorderedSource.utf8ByteSize := by
    unfold strictSource reorderedSource
    exact hsizes "# The same policy.\n" unnamedSource "kind: SentinelPolicy\n" (by decide)
  have hne : strictSource ≠ reorderedSource := fun h => absurd (congrArg String.utf8ByteSize h) hlonger.ne
  have hdocument : strictHost.parseDocument strictSource =
      some { errors := [], warnings := [], toJS := .ok (.obj strictPolicy) } := by
    unfold strictHost
    dsimp only
    rw [if_neg hne, if_pos rfl]
  exact parseSafeYaml_ok hlonger.le hdocument (by decide +kernel) (by decide +kernel)

theorem reorderedSource_parsed : parseSafeYaml strictHost reorderedSource strictLimits = .ok reorderedPolicy := by
  have hdocument : strictHost.parseDocument reorderedSource =
      some { errors := [], warnings := [], toJS := .ok (.obj reorderedPolicy) } := by
    unfold strictHost
    dsimp only
    rw [if_pos rfl]
  exact parseSafeYaml_ok (Nat.le_refl _) hdocument (by decide +kernel) (by decide +kernel)

/-- Whatever the order, the two sources have one digest and load to one value. -/
theorem digest_binds_strict :
    let digest := "sha256:" ++ strictSha256 (canonicalText (.obj strictPolicy))
    loadPolicy strictHost strictSource strictLimits = .ok ⟨strictValue, digest⟩ ∧
      loadPolicy strictHost reorderedSource strictLimits = .ok ⟨strictValue, digest⟩ ∧
        ∀ value value', loadPolicy strictHost strictSource strictLimits = .ok ⟨value, digest⟩ →
          loadPolicy strictHost reorderedSource strictLimits = .ok ⟨value', digest⟩ → value = value' := by
  intro digest
  have hfirst := loadPolicy_strict strictSource_parsed (.refl _) (by decide +kernel)
  have hsecond := loadPolicy_strict reorderedSource_parsed strictPolicy_same (by decide +kernel)
  refine ⟨hfirst, hsecond, fun value value' h h' => ?_⟩
  have hmanifest : OrderFree strictHost.zManifest := fun v w value _ _ hvalue => by cases hvalue
  have hapart : strictHost.DigestsApart strictSource reorderedSource strictLimits strictLimits := by
    intro raw raw' text text' hraw hraw' htext htext' _
    obtain rfl : strictPolicy = raw := Except.ok.inj (strictSource_parsed.symm.trans hraw)
    obtain rfl : reorderedPolicy = raw' := Except.ok.inj (reorderedSource_parsed.symm.trans hraw')
    have hplain := strictPolicy_same.text.1.1 strictPolicy_plain
    rw [← Except.ok.inj (strictPolicy_plain.text.symm.trans htext), ← Except.ok.inj (hplain.text.symm.trans htext')]
    exact strictPolicy_same.text.2 strictPolicy_plain
  exact ((digest_binds_document strictHost strictHost_yieldsData hmanifest strictHost_orderFree).2 strictSource
    reorderedSource strictLimits strictLimits hapart).2 _ _ h h' rfl

end IcttSentinel.Config
