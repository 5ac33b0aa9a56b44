import ClusterAccess.Proofs.Config.Variables
import ClusterAccess.Proofs.Toml.Statement
import ClusterAccess.Proofs.Toml.Table

/-!
Configuration files beside the environment. In a file each setting has a section and a key, and its
value is written in one of the ways that TOML has for it. A file that writes a layer like this sets
what the layer sets, as an environment does whose variables write it; so one of the two alone gives
the same configuration as the other. A file with another name than those of the sections at its top
is refused.
-/

namespace ClusterAccess

open Toml (FlatTable ReadsAs ReadsLine Quotes IsBare headerLine entryLine)

namespace Setting

/-! ### Settings in a file -/

def sectionName : Setting → String
  | kubeconfig | context | preferInCluster => "kube"
  | coreCapacity | storageCapacity | customObjectsCapacity => "cache"
  | userHeader | userPrefix | disableAuth | gateMode => "auth"
  | logLevel | logFormat => "logging"

def key : Setting → String
  | kubeconfig => "kubeconfig"
  | context => "context"
  | preferInCluster => "prefer_in_cluster"
  | coreCapacity => "core_capacity"
  | storageCapacity => "storage_capacity"
  | customObjectsCapacity => "custom_objects_capacity"
  | userHeader => "userid_header"
  | userPrefix => "userid_prefix"
  | disableAuth => "disable_auth"
  | gateMode => "gate_mode"
  | logLevel => "level"
  | logFormat => "format"

def quoted (word : String) : List Char := '"' :: (word.toList ++ ['"'])

def booleanText (b : Bool) : List Char := (if b then "true" else "false").toList

def ofCapacity (n : Nat) : Toml := .integer n

def WritesToml : (s : Setting) → s.Value → List Char → Prop
  | kubeconfig | context | userHeader | userPrefix | logLevel => Quotes
  | preferInCluster | disableAuth => fun b written => written = booleanText b
  | coreCapacity | storageCapacity | customObjectsCapacity => fun n written =>
    written = Nat.toDigits 10 n
  | gateMode => fun mode written => written = quoted (GateMode.text mode)
  | logFormat => fun format written => written = quoted (LogFormat.name format)

def toToml : (s : Setting) → s.Value → Toml
  | kubeconfig | context | userHeader | userPrefix | logLevel => .text
  | preferInCluster | disableAuth => .boolean
  | coreCapacity | storageCapacity | customObjectsCapacity => ofCapacity
  | gateMode => fun mode => .text (GateMode.text mode)
  | logFormat => fun format => .text (LogFormat.name format)

def ofToml? : (s : Setting) → Toml → Option s.Value
  | kubeconfig | context | userHeader | userPrefix | logLevel => Toml.reading.text?
  | preferInCluster | disableAuth => Toml.reading.flag?
  | coreCapacity | storageCapacity | customObjectsCapacity => Toml.reading.capacity
  | gateMode => Toml.reading.gateMode
  | logFormat => Toml.reading.logFormat

variable {s t : Setting} {v : s.Value} {written : List Char}

theorem stands_small {c : Char} (hc : c.isLower = true) : Toml.Stands c [c] := by
  obtain ⟨hleast, hmost⟩ := Text.bounds_of_isLower hc
  exact .itself (.inr (by omega)) (Toml.ne_of_class hc rfl) (Toml.ne_of_class hc rfl)

/-- Between quotes a word of small letters is itself. -/
theorem quotes_small {word : String} (hword : word.toList.all Char.isLower = true) :
    Quotes word (quoted word) := by
  refine ⟨word.toList.map ([·]), ?_, ?_⟩
  · rw [List.forall₂_map_right_iff, List.forall₂_same]
    exact fun c hc => stands_small (List.all_eq_true.mp hword c hc)
  · rw [quoted, ← List.flatMap_def, List.flatMap_singleton']

theorem readsAs_toToml (h : s.WritesToml v written) (hfits : s.Fits (Nat.pow 2 63) v) :
    ReadsAs written (s.toToml v) := by
  cases s
  case preferInCluster | disableAuth =>
    obtain rfl := h
    exact Toml.readsAs_boolean v
  case coreCapacity | storageCapacity | customObjectsCapacity =>
    obtain rfl := h
    exact Toml.readsAs_digits hfits
  case gateMode =>
    obtain rfl := h
    cases v <;> exact Toml.readsAs_quotes (quotes_small (by decide)) (by decide)
  case logFormat =>
    obtain rfl := h
    cases v <;> exact Toml.readsAs_quotes (quotes_small (by decide)) (by decide)
  all_goals exact Toml.readsAs_quotes h hfits

theorem capacity_ofCapacity {n : Nat} (hn : n < Nat.pow 2 63) :
    Toml.reading.capacity (ofCapacity n) = some n := by
  have hbounds : (0 : Int) ≤ n ∧ (n : Int) < Int.pow 2 64 := by
    have hlow : (Nat.pow 2 63 : Int) < Int.pow 2 64 := by decide
    omega
  have hinteger : Toml.reading.integer? (ofCapacity n) = some (n : Int) := rfl
  rw [Reading.capacity, hinteger, Option.bind_some, if_pos hbounds, Int.toNat_natCast]

theorem ofToml?_toToml (hfits : s.Fits (Nat.pow 2 63) v) : s.ofToml? (s.toToml v) = some v := by
  cases s
  case coreCapacity | storageCapacity | customObjectsCapacity => exact capacity_ofCapacity hfits
  case gateMode => cases v <;> rfl
  case logFormat => cases v <;> rfl
  all_goals rfl

theorem exists_writesToml (v : s.Value) : ∃ written, s.WritesToml v written := by
  cases s
  case kubeconfig | context | userHeader | userPrefix | logLevel => exact Toml.exists_quotes v
  all_goals exact ⟨_, rfl⟩

def all : List Setting :=
  [kubeconfig, context, preferInCluster, coreCapacity, storageCapacity, customObjectsCapacity,
    userHeader, userPrefix, disableAuth, gateMode, logLevel, logFormat]

theorem mem_all (s : Setting) : s ∈ all := by
  cases s <;> decide

theorem sectionName_mem (s : Setting) : s.sectionName ∈ Reading.sections := by
  cases s <;> decide

/-- A setting is told by its section and its key. -/
theorem eq_of_key (hsection : s.sectionName = t.sectionName) (hkey : s.key = t.key) : s = t := by
  cases s <;> cases t <;>
    first | rfl | exact absurd hsection (by decide) | exact absurd hkey (by decide)

theorem isBare_key (s : Setting) : IsBare s.key := by
  cases s <;> exact ⟨by decide, by decide⟩

end Setting

/-! ### Files -/

/-- A setting with its value and how the value is written. -/
structure FileField where
  setting : Setting
  value : setting.Value
  written : List Char

structure FileSection where
  blanks : Nat
  name : String
  fields : List FileField

namespace FileSection

variable (part : FileSection)

def text : List Char :=
  List.replicate part.blanks '\n' ++
    (headerLine part.name ++ part.fields.flatMap fun f => entryLine f.setting.key f.written)

def table : FlatTable :=
  ⟨part.blanks, part.name, part.fields.map fun f => (f.setting.key, f.setting.toToml f.value)⟩

def lines : List (List Char × Toml.Statement) :=
  List.replicate part.blanks (['\n'], .blank) ++
    (headerLine part.name, .header ⟨[], part.name⟩) :: part.fields.map fun f =>
      (entryLine f.setting.key f.written, .entry ⟨[], f.setting.key⟩ (f.setting.toToml f.value))

theorem text_eq : part.text = part.lines.flatMap (·.1) := by
  simp [text, lines, List.flatMap_replicate, List.flatMap_map]

theorem statements_eq : part.table.statements = part.lines.map (·.2) := by
  simp [lines, table, FlatTable.statements]

end FileSection

/-- The sections write the layer: each of them and each setting once, every setting that the layer
sets under its section, and its value in one of the ways to write it. -/
structure FileWrites (parts : List FileSection) (layer : ConfigLayer) : Prop where
  sections : ∀ part ∈ parts, part.name ∈ Reading.sections
  once : (parts.map (·.name)).Nodup
  settings : ∀ part ∈ parts, (part.fields.map (·.setting)).Nodup
  fields : ∀ part ∈ parts, ∀ f ∈ part.fields, f.setting.sectionName = part.name ∧
    layer.value? f.setting = some f.value ∧ f.setting.WritesToml f.value f.written
  complete : ∀ s, (layer.value? s).isSome → ∃ part ∈ parts, ∃ f ∈ part.fields, f.setting = s

namespace ConfigLayer

/-- What a layer sets in a section, each value in the way to write it that is chosen for it. -/
def fieldsOf (layer : ConfigLayer) (written : (s : Setting) → s.Value → List Char)
    (name : String) : List FileField :=
  (Setting.all.filter (·.sectionName = name)).filterMap fun s =>
    (layer.value? s).map fun v => ⟨s, v, written s v⟩

variable {layer : ConfigLayer} {written : (s : Setting) → s.Value → List Char} {name : String}

theorem mem_fieldsOf {f : FileField} : f ∈ layer.fieldsOf written name ↔
    f.setting.sectionName = name ∧ layer.value? f.setting = some f.value ∧
      f.written = written f.setting f.value := by
  constructor
  · intro hf
    obtain ⟨s, hs, heq⟩ := List.mem_filterMap.mp hf
    obtain ⟨v, hv, rfl⟩ := Option.map_eq_some_iff.mp heq
    exact ⟨by simpa using (List.mem_filter.mp hs).2, hv, rfl⟩
  · obtain ⟨s, v, text⟩ := f
    rintro ⟨rfl, hv, htext⟩
    obtain rfl : text = written s v := htext
    exact List.mem_filterMap.mpr
      ⟨s, List.mem_filter.mpr ⟨s.mem_all, by simp⟩, Option.map_eq_some_iff.mpr ⟨v, hv, rfl⟩⟩

theorem nodup_fieldsOf : ((layer.fieldsOf written name).map (·.setting)).Nodup := by
  -- The settings are those of the section that the layer sets, in the order of all settings.
  have hset (s : Setting) :
      ((layer.value? s).map fun v => (⟨s, v, written s v⟩ : FileField)).map (·.setting) =
        Option.guard (fun s => (layer.value? s).isSome) s := by
    cases hvalue : layer.value? s <;> simp [hvalue, Option.guard]
  rw [fieldsOf, List.map_filterMap, funext hset, List.filterMap_eq_filter]
  exact ((by decide : Setting.all.Nodup).filter _).filter _

end ConfigLayer

namespace FileWrites

variable {parts : List FileSection} {part : FileSection} {layer : ConfigLayer}

theorem exists_parts (layer : ConfigLayer) : ∃ parts, FileWrites parts layer := by
  choose written hwritten using fun s v => Setting.exists_writesToml (s := s) v
  refine ⟨Reading.sections.map fun name => ⟨0, name, layer.fieldsOf written name⟩, ?_, ?_, ?_, ?_, ?_⟩
  · intro part hpart
    obtain ⟨name, hname, rfl⟩ := List.mem_map.mp hpart
    exact hname
  · rw [List.map_map]
    exact (by decide : Reading.sections.Nodup).map fun _ _ h => h
  · intro part hpart
    obtain ⟨name, -, rfl⟩ := List.mem_map.mp hpart
    exact ConfigLayer.nodup_fieldsOf
  · intro part hpart f hf
    obtain ⟨name, -, rfl⟩ := List.mem_map.mp hpart
    obtain ⟨hname, hvalue, hf⟩ := ConfigLayer.mem_fieldsOf.mp hf
    refine ⟨hname, hvalue, ?_⟩
    rw [hf]
    exact hwritten _ _
  · intro s hset
    obtain ⟨v, hv⟩ := Option.isSome_iff_exists.mp hset
    exact ⟨_, List.mem_map.mpr ⟨s.sectionName, s.sectionName_mem, rfl⟩, ⟨s, v, written s v⟩,
      ConfigLayer.mem_fieldsOf.mpr ⟨rfl, hv, rfl⟩, rfl⟩

theorem isBare_of_mem {name : String} (h : name ∈ Reading.sections) : IsBare name := by
  simp only [Reading.sections, List.mem_cons, List.not_mem_nil, or_false] at h
  obtain rfl | rfl | rfl | rfl := h <;> exact ⟨by decide, by decide⟩

theorem readsLine (h : FileWrites parts layer)
    (hfits : layer.Fits (Nat.pow 2 63)) (hpart : part ∈ parts) :
    ∀ line ∈ part.lines, ReadsLine line.1 line.2 := by
  rw [FileSection.lines, List.forall_mem_append, List.forall_mem_cons, List.forall_mem_map]
  refine ⟨fun line hline => ?_, Toml.readsLine_header (isBare_of_mem (h.sections part hpart)),
    fun f hf => ?_⟩
  · rw [List.eq_of_mem_replicate hline]
    exact Toml.readsLine_blank
  · obtain ⟨-, hvalue, hwritten⟩ := h.fields part hpart f hf
    exact Toml.readsLine_entry f.setting.isBare_key
      (Setting.readsAs_toToml hwritten (hfits f.setting f.value hvalue))

theorem keys_nodup (h : FileWrites parts layer) (hpart : part ∈ parts) :
    (part.table.fields.map (·.1)).Nodup := by
  have hkeys : part.table.fields.map (·.1) = (part.fields.map (·.setting)).map Setting.key := by
    simp [FileSection.table]
  rw [hkeys]
  refine (h.settings part hpart).map_on fun s hs t ht hkey => ?_
  obtain ⟨f, hf, rfl⟩ := List.mem_map.mp hs
  obtain ⟨g, hg, rfl⟩ := List.mem_map.mp ht
  exact Setting.eq_of_key (((h.fields part hpart f hf).1).trans (h.fields part hpart g hg).1.symm)
    hkey

theorem parse?_text (h : FileWrites parts layer)
    (hfits : layer.Fits (Nat.pow 2 63)) :
    Toml.parse? (parts.flatMap (·.text)) =
      some (.table (parts.map fun part => (part.name, .table part.table.fields))) := by
  have htext : parts.flatMap (·.text) = (parts.flatMap (·.lines)).flatMap (·.1) := by
    rw [List.flatMap_assoc]
    exact List.flatMap_congr fun part _ => part.text_eq
  have hstatements : (parts.flatMap (·.lines)).map (·.2) =
      (parts.map (·.table)).flatMap FlatTable.statements := by
    rw [List.map_flatMap, List.flatMap_map]
    exact List.flatMap_congr fun part _ => part.statements_eq.symm
  have hlines : ∀ line ∈ parts.flatMap (·.lines), ReadsLine line.1 line.2 := by
    intro line hline
    obtain ⟨part, hpart, hmem⟩ := List.mem_flatMap.mp hline
    exact h.readsLine hfits hpart line hmem
  rw [htext, Toml.parse?_lines hlines, hstatements, Toml.ofStatements_tables]
  · simp [FlatTable.value, FileSection.table]
  · rw [List.map_map]
    exact h.once
  · intro t ht
    obtain ⟨part, hpart, rfl⟩ := List.mem_map.mp ht
    exact h.keys_nodup hpart

end FileWrites

/-! ### Reading -/

namespace Toml

variable {fields : List (String × Toml)} {layer : ConfigLayer}

/-- What stands in a document for a section sets what the layer sets in that section. -/
def SectionSets (layer : ConfigLayer) (name : String) : Option Toml → Prop
  | none => ∀ s : Setting, s.sectionName = name → layer.value? s = none
  | some v => ∃ fields, v = .table fields ∧ ∀ s : Setting, s.sectionName = name →
      Reading.optional s.ofToml? (fields.lookup s.key) = some (layer.value? s)

theorem present_eq (v : Option Toml) : reading.present v = v := by
  cases v <;> rfl

theorem settings_table (names : List String) :
    reading.settings names (.table fields) = some (names.map fun name => fields.lookup name) := by
  show some (names.map fun name => reading.present (fields.lookup name)) = _
  simp only [present_eq]

/-- A section that is there is read as `whole`, and one that is not there sets nothing. -/
theorem exists_section_of_sets {β : Type} {read : Toml → Option β} {name : String} {v : Option Toml}
    (place : ConfigLayer → Option β → ConfigLayer) (whole : β) (h : SectionSets layer name v)
    (hread : ∀ fields, SectionSets layer name (some (.table fields)) →
      read (.table fields) = some whole)
    (hwhole : ∀ rest (s : Setting), s.sectionName = name →
      (place rest none).value? s = none ∧ (place rest (some whole)).value? s = layer.value? s) :
    ∃ part, Reading.optional read v = some part ∧ ∀ rest (s : Setting), s.sectionName = name →
      (place rest part).value? s = layer.value? s := by
  cases v with
  | none => exact ⟨none, rfl, fun rest s hs => (hwhole rest s hs).1.trans (h s hs).symm⟩
  | some v =>
      obtain ⟨fields, rfl, -⟩ := id h
      refine ⟨some whole, ?_, fun rest s hs => (hwhole rest s hs).2⟩
      rw [Reading.optional, hread fields h]
      rfl

theorem optional_of_sets {name : String} (h : SectionSets layer name (some (.table fields)))
    (s : Setting) (hs : s.sectionName = name) :
    Reading.optional s.ofToml? (fields.lookup s.key) = some (layer.value? s) := by
  obtain ⟨_, heq, hfields⟩ := h
  obtain rfl := Toml.table.inj heq
  exact hfields s hs

theorem kubeLayer_of_sets {v : Option Toml} (h : SectionSets layer "kube" v) :
    ∃ kube, Reading.optional reading.kubeLayer v = some kube ∧
      ∀ (rest : ConfigLayer) (s : Setting), s.sectionName = "kube" →
        ConfigLayer.value? { rest with kube := kube } s = layer.value? s := by
  refine exists_section_of_sets (fun rest kube => { rest with kube := kube })
    ⟨layer.value? .kubeconfig, layer.value? .context, layer.value? .preferInCluster⟩ h
    (fun fields hfields => ?_)
    (fun rest s hs => by cases s <;> first | exact ⟨rfl, rfl⟩ | exact absurd hs (by decide))
  have hkubeconfig : Reading.optional reading.text? (fields.lookup "kubeconfig") = _ :=
    optional_of_sets hfields .kubeconfig rfl
  have hcontext : Reading.optional reading.text? (fields.lookup "context") = _ :=
    optional_of_sets hfields .context rfl
  have hprefer : Reading.optional reading.flag? (fields.lookup "prefer_in_cluster") = _ :=
    optional_of_sets hfields .preferInCluster rfl
  rw [Reading.kubeLayer, settings_table]
  simp only [List.map_cons, List.map_nil, Option.bind_eq_bind, Option.bind_some, hkubeconfig,
    hcontext, hprefer]
  rfl

theorem cacheLayer_of_sets {v : Option Toml} (h : SectionSets layer "cache" v) :
    ∃ cache, Reading.optional reading.cacheLayer v = some cache ∧
      ∀ (rest : ConfigLayer) (s : Setting), s.sectionName = "cache" →
        ConfigLayer.value? { rest with cache := cache } s = layer.value? s := by
  refine exists_section_of_sets (fun rest cache => { rest with cache := cache })
    ⟨layer.value? .coreCapacity, layer.value? .storageCapacity,
      layer.value? .customObjectsCapacity⟩ h
    (fun fields hfields => ?_)
    (fun rest s hs => by cases s <;> first | exact ⟨rfl, rfl⟩ | exact absurd hs (by decide))
  have hcore : Reading.optional reading.capacity (fields.lookup "core_capacity") = _ :=
    optional_of_sets hfields .coreCapacity rfl
  have hstorage : Reading.optional reading.capacity (fields.lookup "storage_capacity") = _ :=
    optional_of_sets hfields .storageCapacity rfl
  have hcustom : Reading.optional reading.capacity (fields.lookup "custom_objects_capacity") = _ :=
    optional_of_sets hfields .customObjectsCapacity rfl
  rw [Reading.cacheLayer, settings_table]
  simp only [List.map_cons, List.map_nil, Option.bind_eq_bind, Option.bind_some, hcore, hstorage,
    hcustom]
  rfl

theorem authLayer_of_sets {v : Option Toml} (h : SectionSets layer "auth" v) :
    ∃ auth, Reading.optional reading.authLayer v = some auth ∧
      ∀ (rest : ConfigLayer) (s : Setting), s.sectionName = "auth" →
        ConfigLayer.value? { rest with auth := auth } s = layer.value? s := by
  refine exists_section_of_sets (fun rest auth => { rest with auth := auth })
    ⟨layer.value? .userHeader, layer.value? .userPrefix, layer.value? .disableAuth,
      layer.value? .gateMode⟩ h
    (fun fields hfields => ?_)
    (fun rest s hs => by cases s <;> first | exact ⟨rfl, rfl⟩ | exact absurd hs (by decide))
  have hheader : Reading.optional reading.text? (fields.lookup "userid_header") = _ :=
    optional_of_sets hfields .userHeader rfl
  have hprefix : Reading.optional reading.text? (fields.lookup "userid_prefix") = _ :=
    optional_of_sets hfields .userPrefix rfl
  have hdisable : Reading.optional reading.flag? (fields.lookup "disable_auth") = _ :=
    optional_of_sets hfields .disableAuth rfl
  have hmode : Reading.optional reading.gateMode (fields.lookup "gate_mode") = _ :=
    optional_of_sets hfields .gateMode rfl
  rw [Reading.authLayer, settings_table]
  simp only [List.map_cons, List.map_nil, Option.bind_eq_bind, Option.bind_some, hheader, hprefix,
    hdisable, hmode]
  rfl

theorem loggingLayer_of_sets {v : Option Toml} (h : SectionSets layer "logging" v) :
    ∃ logging, Reading.optional reading.loggingLayer v = some logging ∧
      ∀ (rest : ConfigLayer) (s : Setting), s.sectionName = "logging" →
        ConfigLayer.value? { rest with logging := logging } s = layer.value? s := by
  refine exists_section_of_sets (fun rest logging => { rest with logging := logging })
    ⟨layer.value? .logLevel, layer.value? .logFormat⟩ h
    (fun fields hfields => ?_)
    (fun rest s hs => by cases s <;> first | exact ⟨rfl, rfl⟩ | exact absurd hs (by decide))
  have hlevel : Reading.optional reading.text? (fields.lookup "level") = _ :=
    optional_of_sets hfields .logLevel rfl
  have hformat : Reading.optional reading.logFormat (fields.lookup "format") = _ :=
    optional_of_sets hfields .logFormat rfl
  rw [Reading.loggingLayer, settings_table]
  simp only [List.map_cons, List.map_nil, Option.bind_eq_bind, Option.bind_some, hlevel, hformat]
  rfl

/-- A document whose sections say what the layer sets is read as such a layer. -/
theorem layer_of_sets (hnames : ∀ name ∈ fields.map (·.1), name ∈ Reading.sections)
    (h : ∀ name ∈ Reading.sections, SectionSets layer name (fields.lookup name)) :
    ∃ loaded, reading.layer (.table fields) = some loaded ∧
      ∀ s, loaded.value? s = layer.value? s := by
  obtain ⟨kube, hkube, hkubeSets⟩ := kubeLayer_of_sets (h "kube" (by decide))
  obtain ⟨cache, hcache, hcacheSets⟩ := cacheLayer_of_sets (h "cache" (by decide))
  obtain ⟨auth, hauth, hauthSets⟩ := authLayer_of_sets (h "auth" (by decide))
  obtain ⟨logging, hlogging, hloggingSets⟩ := loggingLayer_of_sets (h "logging" (by decide))
  have hall : fields.all (fun field => decide (field.1 ∈ Reading.sections)) = true := by
    rw [List.all_eq_true]
    exact fun field hfield => decide_eq_true (hnames _ (List.mem_map.mpr ⟨field, hfield, rfl⟩))
  have hparts : reading.parts (.table fields) =
      some (Reading.sections.map fun name => fields.lookup name) := by
    show (if fields.all (fun field => decide (field.1 ∈ Reading.sections)) = true then
      some (Reading.sections.map fun name => reading.present (fields.lookup name)) else none) = _
    rw [if_pos hall]
    simp only [present_eq]
  refine ⟨⟨kube, cache, auth, logging⟩, ?_, fun s => ?_⟩
  · rw [Reading.layer, hparts]
    simp only [Reading.sections, List.map_cons, List.map_nil, Option.bind_eq_bind, Option.bind_some,
      hkube, hcache, hauth, hlogging]
    rfl
  · have hs := s.sectionName_mem
    simp only [Reading.sections, List.mem_cons, List.not_mem_nil, or_false] at hs
    obtain hs | hs | hs | hs := hs
    · exact hkubeSets ⟨kube, cache, auth, logging⟩ s hs
    · exact hcacheSets ⟨kube, cache, auth, logging⟩ s hs
    · exact hauthSets ⟨kube, cache, auth, logging⟩ s hs
    · exact hloggingSets ⟨kube, cache, auth, logging⟩ s hs

end Toml

namespace FileWrites

variable {parts : List FileSection} {part : FileSection} {layer : ConfigLayer} {s : Setting}

/-- A setting that the layer sets is written in the section of its name. -/
theorem exists_field (h : FileWrites parts layer) (hpart : part ∈ parts)
    (hs : s.sectionName = part.name) (hset : (layer.value? s).isSome) :
    ∃ f ∈ part.fields, f.setting = s := by
  obtain ⟨other, hother, f, hf, rfl⟩ := h.complete s hset
  have hname : other.name = part.name := (h.fields other hother f hf).1.symm.trans hs
  obtain rfl := List.inj_on_of_nodup_map h.once hother hpart hname
  exact ⟨f, hf, rfl⟩

/-- Under the key of a setting its section has the value that the layer sets, and nothing where it
sets none. -/
theorem lookup_key (h : FileWrites parts layer) (hpart : part ∈ parts)
    (hs : s.sectionName = part.name) :
    part.table.fields.lookup s.key = (layer.value? s).map s.toToml := by
  refine Option.ext fun w => ?_
  rw [Toml.lookup_eq_some_iff_mem (h.keys_nodup hpart), Option.map_eq_some_iff]
  constructor
  · intro hmem
    obtain ⟨f, hf, heq⟩ := List.mem_map.mp hmem
    obtain ⟨hkey, rfl⟩ := Prod.mk.inj heq
    obtain ⟨hsection, hvalue, -⟩ := h.fields part hpart f hf
    obtain rfl := Setting.eq_of_key (hsection.trans hs.symm) hkey
    exact ⟨f.value, hvalue, rfl⟩
  · rintro ⟨v, hv, rfl⟩
    obtain ⟨f, hf, rfl⟩ := h.exists_field hpart hs (by rw [hv]; rfl)
    obtain rfl := Option.some.inj (hv.symm.trans (h.fields part hpart f hf).2.1)
    exact List.mem_map.mpr ⟨f, hf, rfl⟩

theorem sectionSets (h : FileWrites parts layer)
    (hfits : layer.Fits (Nat.pow 2 63)) (name : String) :
    Toml.SectionSets layer name
      ((parts.map fun part => (part.name, Toml.table part.table.fields)).lookup name) := by
  have hnames : ((parts.map fun part => (part.name, Toml.table part.table.fields)).map
      (·.1)).Nodup := by
    rw [List.map_map]
    exact h.once
  cases hlookup : (parts.map fun part => (part.name, Toml.table part.table.fields)).lookup name with
  | none =>
      intro s hs
      by_contra hset
      obtain ⟨part, hpart, f, hf, rfl⟩ := h.complete s (Option.isSome_iff_ne_none.mpr hset)
      have hfound := (Toml.lookup_eq_some_iff_mem hnames).mpr (List.mem_map.mpr ⟨part, hpart, rfl⟩)
      rw [← (h.fields part hpart f hf).1, hs, hlookup] at hfound
      cases hfound
  | some v =>
      obtain ⟨part, hpart, heq⟩ :=
        List.mem_map.mp ((Toml.lookup_eq_some_iff_mem hnames).mp hlookup)
      obtain ⟨rfl, rfl⟩ := Prod.mk.inj heq
      refine ⟨part.table.fields, rfl, fun s hs => ?_⟩
      rw [h.lookup_key hpart hs]
      cases hvalue : layer.value? s with
      | none => rfl
      | some v =>
          show (s.ofToml? (s.toToml v)).map some = some (some v)
          rw [Setting.ofToml?_toToml (hfits s v hvalue)]
          rfl

theorem exists_layer (h : FileWrites parts layer)
    (hfits : layer.Fits (Nat.pow 2 63)) :
    ∃ loaded, (Toml.parse? (parts.flatMap (·.text))).bind Toml.reading.layer = some loaded ∧
      ∀ s, loaded.value? s = layer.value? s := by
  rw [h.parse?_text hfits]
  refine Toml.layer_of_sets (fun name hname => ?_) fun name _ => h.sectionSets hfits name
  obtain ⟨field, hfield, rfl⟩ := List.mem_map.mp hname
  obtain ⟨part, hpart, rfl⟩ := List.mem_map.mp hfield
  exact h.sections part hpart

end FileWrites

/-! ### Names at the top -/

namespace Toml

/-- The statements of the text put the name at the top of the document. -/
def HasTop (cs : List Char) (name : String) : Prop :=
  ∃ lines statements, unifyLines (Text.withoutByteOrderMark cs) = some lines ∧
    readStatements lines.length lines = some statements ∧ name ∈ namesFrom true statements

/-- No document with another name at its top is a layer. -/
theorem layer_of_top {cs : List Char} {name : String} (h : HasTop cs name)
    (hname : name ∉ Reading.sections) : (parse? cs).bind reading.layer = none := by
  obtain ⟨lines, statements, hlines, hstatements, htop⟩ := h
  have hparse : parse? cs = ofStatements statements := by
    simp only [parse?, hlines, hstatements, Option.bind_eq_bind, Option.bind_some]
  rw [hparse]
  cases hdocument : ofStatements statements with
  | none => rfl
  | some document =>
      obtain ⟨fields, rfl, hfields⟩ := names_ofStatements hdocument
      have hall : ¬fields.all (fun field => decide (field.1 ∈ Reading.sections)) = true := by
        intro hall
        obtain ⟨field, hfield, rfl⟩ := List.mem_map.mp (hfields name htop)
        exact hname (of_decide_eq_true (List.all_eq_true.mp hall field hfield))
      have hparts : reading.parts (.table fields) = none := if_neg hall
      rw [Option.bind_some, Reading.layer, hparts]
      rfl

end Toml

namespace Host

def Holds (host : Host) (path : PathName) (cs : List Char) : Prop :=
  path.bytes.contains 0 = false ∧ host.file path = .ok (Text.Utf8.encode cs)

theorem readText_of_holds {host : Host} {path : PathName} {cs : List Char}
    (h : host.Holds path cs) : host.readText path = .ok cs := by
  obtain ⟨hpath, hfile⟩ := h
  have hbytes : host.readBytes path = .ok (Text.Utf8.encode cs) := by
    rw [readBytes, hpath, if_neg Bool.false_ne_true, hfile]
  rw [readText, hbytes]
  show (Text.Utf8.decode (Text.Utf8.encode cs)).mapError _ = .ok cs
  rw [Text.Utf8.decode_encode]
  rfl

end Host

namespace ConfigSource

variable {host filed : Host} {path : PathName} {layer loaded : ConfigLayer}
  {parts : List FileSection}

theorem load_file_of_writes (hfile : host.Holds path (parts.flatMap (·.text)))
    (h : FileWrites parts layer) (hfits : layer.Fits (Nat.pow 2 63)) :
    ∃ loaded, (file path).load host = .ok loaded ∧ ∀ s, loaded.value? s = layer.value? s := by
  obtain ⟨loaded, hlayer, hvalue⟩ := h.exists_layer hfits
  refine ⟨loaded, ?_, hvalue⟩
  rw [load, loadFile, Host.readText_of_holds hfile]
  simp only [hlayer]

theorem load_file_malformed {cs : List Char} (hfile : host.readText path = .ok cs)
    (h : (Toml.parse? cs).bind Toml.reading.layer = none) :
    (file path).load host = .error (.malformedFile path) := by
  rw [load, loadFile, hfile]
  simp only [h]

/-- A configuration from one source alone has what the source sets. -/
theorem exists_ofSources_singleton {source : ConfigSource} (h : source.load host = .ok loaded) :
    ∃ config : Config, (∀ s, config.value? s = (loaded.value? s).or s.standard?) ∧
      Config.ofSources host [source] =
        (config.validate.mapError .violation).map fun _ => config := by
  have horder : inOrder [source] = [source] := inOrder_of_pairwise (List.pairwise_singleton _ _)
  have hfault : Config.firstFault? host [source] = none := by
    rw [Config.firstFault?, horder]
    simp [fault?, h]
  obtain ⟨config, hvalue, hsources⟩ := Config.exists_ofSources_eq hfault
  refine ⟨config, fun s => ?_, hsources⟩
  have hset : source.value? host s = loaded.value? s := by
    rw [value?, layer?, h]
    rfl
  rw [hvalue, Config.lastSet?, horder, List.filterMap_cons, hset]
  cases loaded.value? s <;> rfl

/-- A file that writes a layer and an environment that writes it set the same, which is what the
layer sets; so one of the two alone gives the configuration that the other one alone gives, or
breaks the same rule. Every layer has such files. A text with another name than those of the
sections at its top, or one that is no document at all, is refused as a file. -/
theorem file_and_environment_mean_the_same :
    (∀ (layer : ConfigLayer) (parts : List FileSection) (path : PathName) (filed given : Host),
      layer.Fits (Nat.pow 2 63) → FileWrites parts layer →
      filed.Holds path (parts.flatMap (·.text)) → given.Writes layer →
      (∃ fromFile fromVariables, (file path).load filed = .ok fromFile ∧
        environment.load given = .ok fromVariables ∧
        ∀ s, fromFile.value? s = layer.value? s ∧ fromVariables.value? s = layer.value? s) ∧
      Config.ofSources filed [file path] = Config.ofSources given [environment] ∧
      ((∃ config, Config.ofSources given [environment] = .ok config) ∨
        ∃ rule, Config.ofSources given [environment] = .error (.violation rule))) ∧
    (∀ layer : ConfigLayer, ∃ parts, FileWrites parts layer) ∧
    ∀ (host : Host) (path : PathName) (cs : List Char), host.readText path = .ok cs →
      (Toml.parse? cs = none ∨ ∃ name, Toml.HasTop cs name ∧ name ∉ Reading.sections) →
      (file path).load host = .error (.malformedFile path) := by
  refine ⟨fun layer parts path filed given hfits hparts hfile hgiven => ?_,
    FileWrites.exists_parts, fun host path cs hfile hcs => load_file_malformed hfile ?_⟩
  · obtain ⟨fromFile, hload, hvalue⟩ := load_file_of_writes hfile hparts hfits
    obtain ⟨fromVariables, hload', hvalue'⟩ := load_environment_of_writes hgiven
    obtain ⟨config, hconfig, hsources⟩ := exists_ofSources_singleton hload
    obtain ⟨other, hother, hsources'⟩ := exists_ofSources_singleton hload'
    obtain rfl : config = other :=
      Config.eq_of_value? fun s => by rw [hconfig, hother, hvalue, hvalue']
    refine ⟨⟨fromFile, fromVariables, hload, hload', fun s => ⟨hvalue s, hvalue' s⟩⟩,
      hsources.trans hsources'.symm, ?_⟩
    rw [hsources']
    cases config.validate with
    | ok => exact .inl ⟨config, rfl⟩
    | error rule => exact .inr ⟨rule, rfl⟩
  · obtain hnone | ⟨name, htop, hname⟩ := hcs
    · rw [hnone]
      rfl
    · exact Toml.layer_of_top htop hname

/-- A context with a quote and an accent is the same from a file that has the two escaped as from a
variable, beside a capacity with a zero before it in the variable alone. A misspelled section is
refused. -/
theorem escaped_context_is_the_same :
    let layer : ConfigLayer :=
      { kube := some { context := some "a\"é" }, cache := some { core := some 7 } }
    let written := "[cache]\ncore_capacity = 7\n\n[kube]\ncontext = \"a\\\"\\u00e9\"\n".toList
    let path : PathName := ⟨[47, 99]⟩
    let holding (cs : List Char) : Host :=
      { Config.bareHost with file := fun _ => .ok (Text.Utf8.encode cs) }
    let env (name : String) : Option (List UInt8) :=
      if name = "CRUD_BACKEND_KUBE_CONTEXT" then some (Text.Utf8.encode "a\"é".toList)
      else if name = "CRUD_BACKEND_CACHE_CORE_CAPACITY" then some (Text.Utf8.encode "07".toList)
      else none
    let given : Host := { Config.bareHost with env := env }
    ((∃ fromFile fromVariables, (file path).load (holding written) = .ok fromFile ∧
        environment.load given = .ok fromVariables ∧
        ∀ s, fromFile.value? s = layer.value? s ∧ fromVariables.value? s = layer.value? s) ∧
      Config.ofSources (holding written) [file path] = Config.ofSources given [environment]) ∧
    (file path).load (holding "[cach]\n".toList) = .error (.malformedFile path) := by
  intro layer written path holding env given
  obtain ⟨hsame, -, hrefused⟩ := file_and_environment_mean_the_same
  let parts : List FileSection :=
    [⟨0, "cache", [⟨.coreCapacity, (7 : Nat), ['7']⟩]⟩,
      ⟨1, "kube", [⟨.context, "a\"é",
        ['"', 'a', '\\', '"', '\\', 'u', '0', '0', 'e', '9', '"']⟩]⟩]
  have hquotes : Quotes "a\"é" ['"', 'a', '\\', '"', '\\', 'u', '0', '0', 'e', '9', '"'] := by
    refine ⟨[['a'], ['\\', '"'], ['\\', 'u', '0', '0', 'e', '9']], ?_, rfl⟩
    have ha : Toml.Stands 'a' ['a'] := .itself (.inr (by decide)) (by decide) (by decide)
    have hquote : Toml.Stands '"' ['\\', '"'] := .short (by decide)
    have haccent : Toml.Stands 'é' ['\\', 'u', '0', '0', 'e', '9'] :=
      .code (.inl ⟨rfl, rfl⟩) (by decide)
    exact .cons ha (.cons hquote (.cons haccent .nil))
  have hparts : FileWrites parts layer := by
    refine ⟨by decide, by decide, ?_, ?_, ?_⟩
    · simp [parts]
    · simp only [parts, List.forall_mem_cons, List.not_mem_nil, false_implies, implies_true,
        and_true]
      exact ⟨⟨rfl, rfl, rfl⟩, rfl, rfl, hquotes⟩
    · intro s hs
      cases s
      case coreCapacity => exact ⟨_, List.mem_cons_self, _, List.mem_cons_self, rfl⟩
      case context =>
        exact ⟨_, List.mem_cons_of_mem _ List.mem_cons_self, _, List.mem_cons_self, rfl⟩
      all_goals cases hs
  have hfits : layer.Fits (Nat.pow 2 63) := by
    intro s v hv
    cases s
    case context =>
      obtain rfl := Option.some.inj hv
      exact (by decide : "a\"é" ≠ "")
    case coreCapacity =>
      obtain rfl := Option.some.inj hv
      exact (by decide : 7 < Nat.pow 2 63)
    all_goals cases hv
  have hgiven : given.Writes layer := by
    intro s
    cases s
    case context => exact ⟨"a\"é", rfl, rfl, (by decide : "a\"é" ≠ "")⟩
    case coreCapacity => exact ⟨"07", rfl, .inl ⟨1, by decide⟩, by decide⟩
    all_goals exact .inl rfl
  have hwritten : parts.flatMap (·.text) = written := by decide
  have hlines : ∀ line ∈ [(headerLine "cach", Toml.Statement.header ⟨[], "cach"⟩)],
      ReadsLine line.1 line.2 :=
    List.forall_mem_singleton.mpr (Toml.readsLine_header ⟨by decide, by decide⟩)
  have htop : Toml.HasTop "[cach]\n".toList "cach" :=
    ⟨_, _, by rfl, Toml.readStatements_lines hlines (Toml.length_le_flatMap hlines), by decide⟩
  obtain ⟨hloads, heq, -⟩ := hsame layer parts path (holding written) given hfits hparts
    ⟨by decide, by rw [hwritten]⟩ hgiven
  have hcach : (holding "[cach]\n".toList).Holds path "[cach]\n".toList := ⟨by decide, rfl⟩
  refine ⟨⟨hloads, heq⟩, hrefused _ path _ (Host.readText_of_holds hcach) ?_⟩
  exact .inr ⟨"cach", htop, by decide⟩

end ConfigSource

end ClusterAccess
