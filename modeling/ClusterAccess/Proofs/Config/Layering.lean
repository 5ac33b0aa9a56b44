import ClusterAccess.Config.Wiring
import ClusterAccess.Proofs.Config.Setting
import ClusterAccess.Proofs.Resource.Reference
import ClusterAccess.Proofs.Text.Trim
import Mathlib.Data.List.TakeWhile

/-!
What a list of sources comes to. The sources are asked in the order of their precedence, those of
one precedence as they stand in the list. The first one that fails is what loading fails with;
where none does, each setting has the value of the last source that sets it, and the configuration
is given out exactly when it is acceptable. So it does not matter how sources of different
precedence are mixed, nor whether a source that sets nothing is there.
-/

namespace ClusterAccess

namespace ConfigSource

variable (host : Host)

def layer? (source : ConfigSource) : Option ConfigLayer := (source.load host).toOption

def fault? (source : ConfigSource) : Option ConfigFault :=
  match source.load host with
  | .error fault => some fault
  | .ok _ => none

def value? (source : ConfigSource) (s : Setting) : Option s.Value :=
  (source.layer? host).bind (·.value? s)

def SetsNothing (source : ConfigSource) : Prop :=
  ∃ layer, source.load host = .ok layer ∧ ∀ s, layer.value? s = none

def having (p : Precedence) (sources : List ConfigSource) : List ConfigSource :=
  sources.filter (·.precedence = p)

def inOrder (sources : List ConfigSource) : List ConfigSource :=
  having .defaults sources ++ having .configFile sources ++ having .environment sources

end ConfigSource

namespace Config

def firstFault? (host : Host) (sources : List ConfigSource) : Option ConfigFault :=
  (ConfigSource.inOrder sources).findSome? (·.fault? host)

/-- The value from the last source that sets the setting. -/
def lastSet? (host : Host) (sources : List ConfigSource) (s : Setting) : Option s.Value :=
  ((ConfigSource.inOrder sources).filterMap (·.value? host s)).getLast?

structure IsAcceptable (c : Config) : Prop where
  core : 1 ≤ c.cache.core
  storage : 1 ≤ c.cache.storage
  customObjects : 1 ≤ c.cache.customObjects
  caller : (∃ ch ∈ c.auth.userHeader.toList, Text.isBlank ch = false) ∨ c.auth.disableAuth = true
  gate : ¬ (c.auth.gateMode = .strict ∧ c.auth.disableAuth = true)

end Config

/-! ### The order of the sources -/

namespace ConfigSource

variable {host : Host} {sources : List ConfigSource}

/-- Whether a source is asked no later than another one, as far as their precedence tells. -/
def notAfter (a b : ConfigSource) : Bool := decide (a.precedence.level ≤ b.precedence.level)

theorem notAfter_trans (a b c : ConfigSource) (hab : notAfter a b = true)
    (hbc : notAfter b c = true) : notAfter a c = true := by
  simp only [notAfter, decide_eq_true_eq] at *
  omega

theorem notAfter_total (a b : ConfigSource) : (notAfter a b || notAfter b a) = true := by
  simp only [notAfter, Bool.or_eq_true, decide_eq_true_eq]
  omega

@[simp] theorem mem_having {p : Precedence} {source : ConfigSource} :
    source ∈ having p sources ↔ source ∈ sources ∧ source.precedence = p := by
  simp [having]

theorem pairwise_having (p : Precedence) : (having p sources).Pairwise (notAfter · ·) := by
  refine List.pairwise_of_forall_mem_list fun a ha b hb => ?_
  simp [notAfter, (mem_having.mp ha).2, (mem_having.mp hb).2]

theorem having_mergeSort (p : Precedence) :
    having p (sources.mergeSort notAfter) = having p sources := by
  have hsub : (having p sources).Sublist (sources.mergeSort notAfter) :=
    List.sublist_mergeSort notAfter_trans notAfter_total (pairwise_having p) List.filter_sublist
  -- A part that keeps its order and is as long as the whole is the whole.
  have hfilter : (having p sources).Sublist (having p (sources.mergeSort notAfter)) := by
    simpa [having, List.filter_filter] using hsub.filter (·.precedence = p)
  refine (hfilter.eq_of_length ?_).symm
  exact ((List.mergeSort_perm sources notAfter).filter _).length_eq.symm

theorem having_cons (p : Precedence) (source : ConfigSource) : having p (source :: sources) =
    if source.precedence = p then source :: having p sources else having p sources := by
  simp [having, List.filter_cons]

theorem having_eq_nil {p : Precedence} (h : ∀ source ∈ sources, source.precedence ≠ p) :
    having p sources = [] :=
  List.filter_eq_nil_iff.mpr fun source hsource => by simpa using h source hsource

/-- Sorted sources are those of each precedence one after the other. -/
theorem inOrder_of_pairwise (h : sources.Pairwise (notAfter · ·)) : inOrder sources = sources := by
  induction sources with
  | nil => rfl
  | cons source sources ih =>
      obtain ⟨hfirst, hrest⟩ := List.pairwise_cons.mp h
      specialize ih hrest
      -- Behind a source there is none of a lower precedence, so it is the first of its own.
      have hlower (p : Precedence) (hp : p.level < source.precedence.level) :
          having p sources = [] := by
        refine having_eq_nil fun other hother heq => ?_
        have hlevel : source.precedence.level ≤ other.precedence.level := by
          simpa [notAfter] using hfirst other hother
        rw [heq] at hlevel
        omega
      cases hprecedence : source.precedence with
      | defaults => simpa [inOrder, having_cons, hprecedence] using ih
      | configFile =>
          rw [hprecedence] at hlower
          have hdefaults := hlower .defaults (by decide)
          simpa [inOrder, having_cons, hprecedence, hdefaults] using ih
      | environment =>
          rw [hprecedence] at hlower
          have hdefaults := hlower .defaults (by decide)
          have hfiles := hlower .configFile (by decide)
          simpa [inOrder, having_cons, hprecedence, hdefaults, hfiles] using ih

/-- The sources are sorted into those of each precedence as they stand in the list. -/
theorem mergeSort_eq_inOrder : sources.mergeSort notAfter = inOrder sources := by
  have hsorted := List.pairwise_mergeSort notAfter_trans notAfter_total sources
  rw [← inOrder_of_pairwise hsorted]
  simp only [inOrder, having_mergeSort]

theorem inOrder_congr {others : List ConfigSource} (h : ∀ p, having p others = having p sources) :
    inOrder others = inOrder sources := by
  simp only [inOrder, h]

/-! ### Loading one source after the other -/

/-- Laying the layers of sources over each other stops at the first one that fails. -/
theorem foldlM_merge (lower : ConfigLayer) :
    sources.foldlM (fun lower source => do return lower.merge (← source.load host)) lower =
      match sources.findSome? (·.fault? host) with
      | some fault => .error fault
      | none => .ok ((sources.filterMap (·.layer? host)).foldl ConfigLayer.merge lower) := by
  induction sources generalizing lower with
  | nil => rfl
  | cons source sources ih =>
      rw [List.foldlM_cons, List.findSome?_cons, List.filterMap_cons]
      cases hload : source.load host with
      | error fault => simp [fault?, hload, bind, Except.bind]
      | ok layer =>
          simp only [fault?, layer?, hload, Except.toOption]
          exact ih (lower.merge layer)

end ConfigSource

namespace Config

variable {host : Host} {sources : List ConfigSource}

theorem mergedLayer_eq : mergedLayer host sources =
    match firstFault? host sources with
    | some fault => .error fault
    | none => .ok (((ConfigSource.inOrder sources).filterMap (·.layer? host)).foldl
        ConfigLayer.merge {}) := by
  have hsort : sources.mergeSort (fun a b => a.precedence.level ≤ b.precedence.level) =
      ConfigSource.inOrder sources := ConfigSource.mergeSort_eq_inOrder
  rw [mergedLayer, hsort]
  exact ConfigSource.foldlM_merge {}

/-- The layer of all sources together resolves to the values that were set last. -/
theorem value?_resolve_mergedLayer {layer : ConfigLayer} (h : mergedLayer host sources = .ok layer)
    (s : Setting) : layer.resolve.value? s = (lastSet? host sources s).or s.standard? := by
  rw [mergedLayer_eq] at h
  cases hfault : firstFault? host sources with
  | some fault => simp [hfault] at h
  | none =>
      rw [hfault] at h
      obtain rfl := Except.ok.inj h
      rw [ConfigLayer.value?_resolve, ConfigLayer.value?_foldl_merge, List.filterMap_filterMap,
        ConfigLayer.value?_empty, Option.or_none]
      rfl

/-! ### What is acceptable -/

theorem cache_validate_eq_ok {c : CacheConfig} :
    c.validate = .ok () ↔ 1 ≤ c.core ∧ 1 ≤ c.storage ∧ 1 ≤ c.customObjects := by
  unfold CacheConfig.validate
  split_ifs <;> simp <;> omega

theorem auth_validate_eq_ok {c : AuthConfig} :
    c.validate = .ok () ↔
      ((∃ ch ∈ c.userHeader.toList, Text.isBlank ch = false) ∨ c.disableAuth = true) ∧
        ¬ (c.gateMode = .strict ∧ c.disableAuth = true) := by
  have hblank : (∃ ch ∈ c.userHeader.toList, Text.isBlank ch = false) ↔
      ¬ Text.trim c.userHeader = "" := by
    rw [Text.trim_eq_empty_iff]
    simp
  rw [hblank]
  unfold AuthConfig.validate
  cases c.disableAuth <;> by_cases htrim : Text.trim c.userHeader = "" <;>
    by_cases hstrict : c.gateMode = .strict <;> simp [htrim, hstrict]

theorem validate_eq_ok (c : Config) : c.validate = .ok () ↔ c.IsAcceptable := by
  unfold Config.validate
  rw [bind_eq_ok]
  constructor
  · rintro ⟨⟨⟩, hcache, hauth⟩
    obtain ⟨hcore, hstorage, hcustom⟩ := cache_validate_eq_ok.mp hcache
    obtain ⟨hcaller, hgate⟩ := auth_validate_eq_ok.mp hauth
    exact ⟨hcore, hstorage, hcustom, hcaller, hgate⟩
  · rintro ⟨hcore, hstorage, hcustom, hcaller, hgate⟩
    exact ⟨(), cache_validate_eq_ok.mpr ⟨hcore, hstorage, hcustom⟩,
      auth_validate_eq_ok.mpr ⟨hcaller, hgate⟩⟩

/-! ### The configuration of a list of sources -/

theorem ofSources_of_fault {fault : ConfigFault} (h : firstFault? host sources = some fault) :
    ofSources host sources = .error fault := by
  rw [ofSources, mergedLayer_eq, h]
  rfl

theorem exists_ofSources_eq (h : firstFault? host sources = none) :
    ∃ config : Config, (∀ s, config.value? s = (lastSet? host sources s).or s.standard?) ∧
      ofSources host sources = (config.validate.mapError .violation).map fun _ => config := by
  obtain ⟨layer, hlayer⟩ : ∃ layer, mergedLayer host sources = .ok layer := by
    rw [mergedLayer_eq, h]
    exact ⟨_, rfl⟩
  refine ⟨layer.resolve, value?_resolve_mergedLayer hlayer, ?_⟩
  rw [ofSources, hlayer]
  change (do
    layer.resolve.validate.mapError ConfigFault.violation
    return layer.resolve) = _
  cases layer.resolve.validate <;> rfl

theorem value?_of_ofSources {config : Config} (h : ofSources host sources = .ok config)
    (s : Setting) : config.value? s = (lastSet? host sources s).or s.standard? := by
  cases hfirst : firstFault? host sources with
  | some fault =>
      rw [ofSources_of_fault hfirst] at h
      cases h
  | none =>
      obtain ⟨resolved, hvalue, hsources⟩ := exists_ofSources_eq hfirst
      rw [hsources] at h
      cases hvalid : resolved.validate with
      | error rule =>
          rw [hvalid] at h
          cases h
      | ok =>
          rw [hvalid] at h
          obtain rfl := Except.ok.inj h
          exact hvalue s

/-- Nothing counts but the first fault and what was set last. -/
theorem ofSources_congr {others : List ConfigSource}
    (hfault : firstFault? host others = firstFault? host sources)
    (hset : ∀ s, lastSet? host others s = lastSet? host sources s) :
    ofSources host others = ofSources host sources := by
  cases hfirst : firstFault? host sources with
  | some fault => rw [ofSources_of_fault (hfault.trans hfirst), ofSources_of_fault hfirst]
  | none =>
      obtain ⟨config, hvalue, hsources⟩ := exists_ofSources_eq hfirst
      obtain ⟨other, hvalue', hothers⟩ := exists_ofSources_eq (hfault.trans hfirst)
      have heq : other = config := eq_of_value? fun s => by rw [hvalue, hvalue', hset]
      rw [hsources, hothers, heq]

theorem ofSources_of_no_fault (h : firstFault? host sources = none) :
    ∃ config : Config, (∀ s, config.value? s = (lastSet? host sources s).or s.standard?) ∧
      (ofSources host sources = .ok config ↔ config.IsAcceptable) ∧
      (¬ config.IsAcceptable → ∃ rule, ofSources host sources = .error (.violation rule)) := by
  obtain ⟨config, hvalue, hsources⟩ := exists_ofSources_eq h
  refine ⟨config, hvalue, ?_⟩
  rw [← validate_eq_ok, hsources]
  cases config.validate with
  | ok => simp [Except.mapError, Except.map]
  | error rule => simp [Except.mapError, Except.map]

theorem ofSources_eq_ok (config : Config) (hfault : firstFault? host sources = none)
    (hacceptable : config.IsAcceptable)
    (hvalue : ∀ s, config.value? s = (lastSet? host sources s).or s.standard?) :
    ofSources host sources = .ok config := by
  obtain ⟨resolved, hresolved, hok, -⟩ := ofSources_of_no_fault hfault
  obtain rfl : resolved = config := eq_of_value? fun s => (hresolved s).trans (hvalue s).symm
  exact hok.mpr hacceptable

end Config

/-! ### Sources that set nothing -/

namespace Host

variable {host : Host} {name text : String}

theorem eq_empty_of_unset (h : host.env name = none ∨ host.env name = some [])
    (htext : host.text? name = some text) : text = "" := by
  rw [text?] at htext
  rcases h with h | h
  · rw [h] at htext
    cases htext
  · have hempty : Text.Utf8.text? [] = some "" := by decide
    rw [h, Option.bind_some, hempty] at htext
    exact (Option.some.inj htext).symm

theorem nonEmpty?_of_unset (h : host.env name = none ∨ host.env name = some []) :
    host.nonEmpty? name = none := by
  cases htext : host.text? name with
  | none => simp [nonEmpty?, htext]
  | some text =>
      obtain rfl := eq_empty_of_unset h htext
      simp [nonEmpty?, htext]

end Host

namespace ConfigSource

variable {host : Host}

theorem having_append (p : Precedence) (front back : List ConfigSource) :
    having p (front ++ back) = having p front ++ having p back :=
  List.filter_append front back

theorem SetsNothing.fault?_eq {source : ConfigSource} (h : source.SetsNothing host) :
    source.fault? host = none := by
  obtain ⟨layer, hload, -⟩ := h
  simp [fault?, hload]

theorem SetsNothing.value?_eq {source : ConfigSource} (h : source.SetsNothing host) (s : Setting) :
    source.value? host s = none := by
  obtain ⟨layer, hload, hnone⟩ := h
  simp [value?, layer?, hload, Except.toOption, hnone s]

theorem setsNothing_defaults : SetsNothing host .defaults := ⟨{}, rfl, ConfigLayer.value?_empty⟩

/-- Where none of the variables has a value the environment sets nothing. -/
theorem setsNothing_environment
    (h : ∀ s : Setting, host.env s.variableName = none ∨ host.env s.variableName = some []) :
    SetsNothing host .environment := by
  have hvalue (s : Setting) : Environment.value? host s = .ok none :=
    Environment.value?_of_unset (Host.nonEmpty?_of_unset (h s))
  have hfault : Setting.typed.findSome? (Environment.fault? host) = none := by
    refine List.findSome?_eq_none_iff.mpr fun s _ => ?_
    rw [Environment.fault?, hvalue]
  have hrun := Environment.layer_run host
  rw [hfault] at hrun
  obtain ⟨layer, hload, hlayer⟩ := hrun
  exact ⟨layer, hload, fun s => (Except.ok.inj ((hvalue s).symm.trans (hlayer s))).symm⟩

end ConfigSource

namespace Config

variable {host : Host} {front quiet back : List ConfigSource}

theorem firstFault?_insert (h : ∀ source ∈ quiet, source.SetsNothing host) :
    firstFault? host (front ++ quiet ++ back) = firstFault? host (front ++ back) := by
  have hquiet (p : Precedence) :
      (ConfigSource.having p quiet).findSome? (·.fault? host) = none := by
    refine List.findSome?_eq_none_iff.mpr fun source hsource => ?_
    exact (h source (ConfigSource.mem_having.mp hsource).1).fault?_eq
  simp [firstFault?, ConfigSource.inOrder, ConfigSource.having_append, List.findSome?_append,
    hquiet]

theorem lastSet?_insert (h : ∀ source ∈ quiet, source.SetsNothing host) (s : Setting) :
    lastSet? host (front ++ quiet ++ back) s = lastSet? host (front ++ back) s := by
  have hquiet (p : Precedence) :
      (ConfigSource.having p quiet).filterMap (·.value? host s) = [] := by
    refine List.filterMap_eq_nil_iff.mpr fun source hsource => ?_
    exact (h source (ConfigSource.mem_having.mp hsource).1).value?_eq s
  simp only [lastSet?, ConfigSource.inOrder, ConfigSource.having_append, List.filterMap_append,
    hquiet, List.append_nil]

/-- Loading fails as the first source that fails, in the order of precedence and then of the list.
Otherwise each setting has the value that was set last in this order, or its standard value, and
the configuration is given out exactly when it is acceptable. Mixing sources of different precedence
another way changes nothing, and so do sources that set nothing: the source of the defaults, and the
environment where each variable is unset or empty. -/
theorem sources_resolve_setting_by_setting (host : Host) (sources : List ConfigSource) :
    (∀ fault, firstFault? host sources = some fault → ofSources host sources = .error fault) ∧
    (firstFault? host sources = none → ∃ config : Config,
      (∀ s, config.value? s = (lastSet? host sources s).or s.standard?) ∧
      (ofSources host sources = .ok config ↔ config.IsAcceptable) ∧
      (¬ config.IsAcceptable → ∃ rule, ofSources host sources = .error (.violation rule))) ∧
    (∀ others, (∀ p, ConfigSource.having p others = ConfigSource.having p sources) →
      ofSources host others = ofSources host sources) ∧
    (∀ front quiet back, sources = front ++ back →
      (∀ source ∈ quiet, ConfigSource.SetsNothing host source) →
      ofSources host (front ++ quiet ++ back) = ofSources host sources) ∧
    ConfigSource.SetsNothing host .defaults ∧
    ((∀ s : Setting, host.env s.variableName = none ∨ host.env s.variableName = some []) →
      ConfigSource.SetsNothing host .environment) := by
  refine ⟨fun fault => ofSources_of_fault, ofSources_of_no_fault, fun others hmixed => ?_,
    fun front quiet back heq hquiet => ?_, ConfigSource.setsNothing_defaults,
    ConfigSource.setsNothing_environment⟩
  · have horder := ConfigSource.inOrder_congr hmixed
    exact ofSources_congr (by rw [firstFault?, firstFault?, horder])
      fun s => by rw [lastSet?, lastSet?, horder]
  · rw [heq]
    exact ofSources_congr (firstFault?_insert hquiet) (lastSet?_insert hquiet)

def bareHost : Host := ⟨fun _ => none, fun _ => .error .missing, ⟨[]⟩, 0⟩

/-- A source over a file takes the header from it and leaves its prefix and its capacity, wherever
the two stand and whether or not an empty environment stands between them. A broken file counts
before both. -/
theorem header_set_over_file :
    let file := ConfigSource.fixed .configFile
      { cache := some { core := some 5 }
        auth := some { userHeader := some "x-file", userPrefix := some "p:" } }
    let upper := ConfigSource.fixed .environment { auth := some { userHeader := some "x-user" } }
    let broken := ConfigSource.given "broken" .configFile (.error (.malformedFile ⟨[]⟩))
    ofSources bareHost [upper, file] = .ok { ConfigLayer.resolve {} with
        cache := ⟨5, 100, 100⟩, auth := ⟨"x-user", "p:", false, .selective⟩ } ∧
      ofSources bareHost [file, upper] = ofSources bareHost [upper, file] ∧
      ofSources bareHost [upper, .environment, file] = ofSources bareHost [upper, file] ∧
      ofSources bareHost [upper, broken, file] = .error (.malformedFile ⟨[]⟩) := by
  intro file upper broken
  obtain ⟨-, hloaded, hmixed, hquiet, -, henvironment⟩ :=
    sources_resolve_setting_by_setting bareHost [upper, file]
  obtain ⟨hbroken, -⟩ := sources_resolve_setting_by_setting bareHost [upper, broken, file]
  obtain ⟨config, hvalue, hok, -⟩ := hloaded rfl
  obtain rfl : config = { ConfigLayer.resolve {} with
      cache := ⟨5, 100, 100⟩, auth := ⟨"x-user", "p:", false, .selective⟩ } :=
    eq_of_value? fun s => by rw [hvalue]; cases s <;> rfl
  refine ⟨hok.mpr ⟨by decide, by decide, by decide, .inl ⟨'x', by decide, by decide⟩, by decide⟩,
    hmixed _ fun p => ?_, hquiet [upper] [.environment] [file] rfl ?_, hbroken _ rfl⟩
  · cases p <;> rfl
  · rintro source hsource
    obtain rfl := List.mem_singleton.mp hsource
    exact henvironment fun s => .inl rfl

end Config

end ClusterAccess
