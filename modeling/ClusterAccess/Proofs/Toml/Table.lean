import ClusterAccess.Toml.Table
import Mathlib.Data.List.Basic
import Mathlib.Data.List.Nodup

/-!
What the statements of a document make of it. No statement takes a name away that is at the top of
the document, so that every name that some statement puts there is there at the end. Tables of one
level, each of them under its own header and with its own names, are there as they were written.
-/

namespace ClusterAccess.Toml

variable {entries later below : Entries} {key name k : String} {node : Node} {v : Toml}

/-- Where no name is twice, what is found under a name is what stands under it. -/
theorem lookup_eq_some_iff_mem {α : Type} {fields : List (String × α)} {a : α}
    (hnames : (fields.map (·.1)).Nodup) : fields.lookup key = some a ↔ (key, a) ∈ fields := by
  induction fields with
  | nil => simp
  | cons field fields ih =>
      obtain ⟨other, b⟩ := field
      obtain ⟨hother, hrest⟩ := List.nodup_cons.mp hnames
      rw [List.lookup_cons, List.mem_cons, Prod.mk.injEq]
      rcases eq_or_ne key other with rfl | hne
      · have hlater : (key, a) ∉ fields := fun hmem => hother (List.mem_map.mpr ⟨_, hmem, rfl⟩)
        simp [hlater, eq_comm]
      · simp [beq_false_of_ne hne, hne, ih hrest]

/-! ### Names -/

namespace Entries

def keys (entries : Entries) : List String := entries.map (·.1)

theorem mem_keys_put : k ∈ keys (put key node entries) ↔ k = key ∨ k ∈ keys entries := by
  induction entries with
  | nil => simp [put, keys]
  | cons entry entries ih =>
      obtain ⟨other, old⟩ := entry
      unfold keys at ih ⊢
      by_cases hsame : other = key
      · simp [put, hsame]
      · simp [put, hsame, ih, or_left_comm]

/-- Going down a path adds its first name alone. -/
theorem mem_keys_descend {byDots : Bool} {act : Origin → Entries → Option Entries}
    {path : List String} {origin : Origin} {result : Entries}
    (h : descend byDots act (key :: path) origin entries = some result) :
    k ∈ keys result ↔ k = key ∨ k ∈ keys entries := by
  obtain ⟨node, rfl⟩ : ∃ node, result = put key node entries := by
    rw [descend] at h
    split at h
    next =>
      obtain ⟨below, -, hput⟩ := Option.bind_eq_some_iff.mp h
      exact ⟨_, (Option.some.inj hput).symm⟩
    next => cases h
    next =>
      split at h
      next => cases h
      next =>
        obtain ⟨below, -, hput⟩ := Option.bind_eq_some_iff.mp h
        exact ⟨_, (Option.some.inj hput).symm⟩
    next =>
      obtain ⟨last, -, hlast⟩ := Option.bind_eq_some_iff.mp h
      obtain ⟨below, -, hput⟩ := Option.bind_eq_some_iff.mp hlast
      exact ⟨_, (Option.some.inj hput).symm⟩
  exact mem_keys_put

theorem mem_keys_set {result : Entries} (h : set key v entries = some result) :
    k ∈ keys result ↔ k = key ∨ k ∈ keys entries := by
  unfold set at h
  split at h
  next => exact Option.some.inj h ▸ mem_keys_put
  next => cases h

theorem mem_keys_openTable {result : Entries} (h : openTable key entries = some result) :
    k ∈ keys result ↔ k = key ∨ k ∈ keys entries := by
  unfold openTable at h
  split at h
  next => exact Option.some.inj h ▸ mem_keys_put
  next => exact Option.some.inj h ▸ mem_keys_put
  next => cases h

theorem mem_keys_openElement {result : Entries} (h : openElement key entries = some result) :
    k ∈ keys result ↔ k = key ∨ k ∈ keys entries := by
  unfold openElement at h
  split at h
  next => exact Option.some.inj h ▸ mem_keys_put
  next => exact Option.some.inj h ▸ mem_keys_put
  next => cases h

end Entries

def Key.first (key : Key) : String := key.path.headD key.name

/-- A statement at a key adds the first name of it and none else. -/
theorem mem_keys_at {byDots : Bool} {act : Origin → Entries → Option Entries} {key : Key}
    {origin : Origin} {result : Entries}
    (hact : ∀ origin es es', act origin es = some es' →
      (k ∈ es'.keys ↔ k = key.name ∨ k ∈ es.keys))
    (h : entries.descend byDots act key.path origin = some result) :
    k ∈ result.keys ↔ k = key.first ∨ k ∈ entries.keys := by
  obtain ⟨path, name⟩ := key
  cases path with
  | nil => exact hact origin entries result h
  | cons first path => exact Entries.mem_keys_descend h

/-- The names that a statement puts at the top of a document. An entry does so at the top alone. -/
def Statement.names (atTop : Bool) : Statement → List String
  | .blank => []
  | .header key | .element key => [key.first]
  | .entry key _ => if atTop then [key.first] else []

def Statement.isHeader : Statement → Bool
  | .header _ | .element _ => true
  | .blank | .entry .. => false

/-- The names that statements put at the top of a document, which they leave with the first
header. -/
def namesFrom (atTop : Bool) : List Statement → List String
  | [] => []
  | statement :: rest =>
    statement.names atTop ++ namesFrom (atTop && !statement.isHeader) rest

section Names

variable {statement : Statement} {statements : List Statement} {draft next : Draft}

theorem current_apply (h : draft.apply statement = some next) :
    next.current.isEmpty = (draft.current.isEmpty && !statement.isHeader) := by
  cases statement with
  | blank =>
      obtain rfl := Option.some.inj h
      exact (Bool.and_true _).symm
  | header key | element key =>
      obtain ⟨result, -, hnext⟩ := Option.bind_eq_some_iff.mp h
      obtain rfl := Option.some.inj hnext
      simp [Statement.isHeader, Key.full]
  | entry key v =>
      obtain ⟨result, -, hnext⟩ := Option.bind_eq_some_iff.mp h
      obtain rfl := Option.some.inj hnext
      exact (Bool.and_true _).symm

theorem mem_keys_setDotted {key : Key} {result : Entries}
    (h : entries.setDotted key.path key.name v = some result) :
    k ∈ result.keys ↔ k = key.first ∨ k ∈ entries.keys := by
  refine mem_keys_at (fun origin es es' hset => ?_) h
  split at hset
  next => cases hset
  next => exact Entries.mem_keys_set hset

/-- After a statement the names that it puts at the top are there, and those that were. -/
theorem keys_apply (h : draft.apply statement = some next)
    (hk : k ∈ statement.names draft.current.isEmpty ∨ k ∈ draft.entries.keys) :
    k ∈ next.entries.keys := by
  cases statement with
  | blank =>
      obtain rfl := Option.some.inj h
      exact hk.resolve_left List.not_mem_nil
  | header key =>
      obtain ⟨result, hresult, hnext⟩ := Option.bind_eq_some_iff.mp h
      obtain rfl := Option.some.inj hnext
      refine (mem_keys_at (fun _ _ _ => Entries.mem_keys_openTable) hresult).mpr ?_
      simpa [Statement.names] using hk
  | element key =>
      obtain ⟨result, hresult, hnext⟩ := Option.bind_eq_some_iff.mp h
      obtain rfl := Option.some.inj hnext
      refine (mem_keys_at (fun _ _ _ => Entries.mem_keys_openElement) hresult).mpr ?_
      simpa [Statement.names] using hk
  | entry key v =>
      obtain ⟨result, hresult, hnext⟩ := Option.bind_eq_some_iff.mp h
      obtain rfl := Option.some.inj hnext
      cases hcurrent : draft.current with
      | nil =>
          rw [hcurrent] at hresult hk
          exact (mem_keys_setDotted hresult).mpr (by simpa [Statement.names] using hk)
      | cons first path =>
          rw [hcurrent] at hresult hk
          exact (Entries.mem_keys_descend hresult).mpr (.inr (by simpa [Statement.names] using hk))

theorem keys_run (h : statements.foldlM Draft.apply draft = some next)
    (hk : k ∈ namesFrom draft.current.isEmpty statements ∨ k ∈ draft.entries.keys) :
    k ∈ next.entries.keys := by
  induction statements generalizing draft with
  | nil =>
      obtain rfl := Option.some.inj h
      exact hk.resolve_left List.not_mem_nil
  | cons statement rest ih =>
      rw [List.foldlM_cons] at h
      obtain ⟨middle, hstep, hrest⟩ := Option.bind_eq_some_iff.mp h
      refine ih hrest ?_
      rw [namesFrom, List.mem_append, ← current_apply hstep, or_assoc, or_left_comm] at hk
      exact hk.imp_right (keys_apply hstep)

theorem keys_finishEntries : (finishEntries entries).map (·.1) = entries.keys := by
  induction entries with
  | nil => rfl
  | cons entry entries ih =>
      obtain ⟨key, node⟩ := entry
      rw [finishEntries, List.map_cons, ih]
      rfl

/-- What a document is read as has all the names that its statements put at the top. -/
theorem names_ofStatements {document : Toml} (h : ofStatements statements = some document) :
    ∃ fields, document = .table fields ∧ ∀ k ∈ namesFrom true statements, k ∈ fields.map (·.1) := by
  obtain ⟨draft, hrun, hdocument⟩ := Option.bind_eq_some_iff.mp h
  refine ⟨_, (Option.some.inj hdocument).symm, fun k hk => ?_⟩
  rw [keys_finishEntries]
  exact keys_run hrun (.inl hk)

end Names

/-! ### Tables of one level -/

structure FlatTable where
  blanks : Nat
  name : String
  fields : List (String × Toml)

namespace FlatTable

def statements (t : FlatTable) : List Statement :=
  List.replicate t.blanks .blank ++
    .header ⟨[], t.name⟩ :: t.fields.map fun field => .entry ⟨[], field.1⟩ field.2

def value (t : FlatTable) : String × Toml := (t.name, .table t.fields)

end FlatTable

def finished (fields : List (String × Toml)) : Entries :=
  fields.map fun field => (field.1, .value field.2)

theorem put_of_not_mem (h : key ∉ entries.keys) :
    Entries.put key node (entries ++ later) = entries ++ Entries.put key node later := by
  induction entries with
  | nil => rfl
  | cons entry entries ih =>
      obtain ⟨other, old⟩ := entry
      obtain ⟨hne, hrest⟩ := not_or.mp (mt List.mem_cons.mpr h)
      rw [List.cons_append, Entries.put, if_neg (Ne.symm hne), ih hrest, List.cons_append]

theorem put_new (h : key ∉ entries.keys) :
    Entries.put key node entries = entries ++ [(key, node)] := by
  have hput : Entries.put key node (entries ++ []) = entries ++ Entries.put key node [] :=
    put_of_not_mem h
  rwa [List.append_nil] at hput

theorem lookup_of_not_mem (h : key ∉ entries.keys) : List.lookup key entries = none := by
  rw [List.lookup_eq_none_iff]
  rintro ⟨other, node⟩ hmem
  rw [bne_iff_ne]
  rintro rfl
  exact h (List.mem_map.mpr ⟨_, hmem, rfl⟩)

/-- The table that was opened last is the one that an entry goes into. -/
theorem apply_entry {done : Entries} (hname : name ∉ done.keys) (hkey : key ∉ below.keys) :
    Draft.apply ⟨done ++ [(name, .table .header below)], [name]⟩ (.entry ⟨[], key⟩ v) =
      some ⟨done ++ [(name, .table .header (below ++ [(key, .value v)]))], [name]⟩ := by
  have hlookup : List.lookup name (done ++ [(name, Node.table .header below)]) =
      some (.table .header below) := by
    rw [List.lookup_append, lookup_of_not_mem hname, List.lookup_cons_self]
    rfl
  have hset : Entries.setDotted [] key v below = some (below ++ [(key, .value v)]) := by
    show Entries.set key v below = _
    rw [Entries.set, lookup_of_not_mem hkey, put_new hkey]
  have hput : Entries.put name (.table .header (below ++ [(key, .value v)]))
      (done ++ [(name, .table .header below)]) =
        done ++ [(name, .table .header (below ++ [(key, .value v)]))] := by
    rw [put_of_not_mem hname, Entries.put, if_pos rfl]
  rw [Draft.apply, Entries.descend, hlookup]
  simp [Entries.descend, hset, hput]

theorem apply_header {done : Entries} {current : List String} (hname : name ∉ done.keys) :
    Draft.apply ⟨done, current⟩ (.header ⟨[], name⟩) =
      some ⟨done ++ [(name, .table .header [])], [name]⟩ := by
  have hopen : Entries.openTable name done = some (done ++ [(name, .table .header [])]) := by
    rw [Entries.openTable, lookup_of_not_mem hname, put_new hname]
  simp [Draft.apply, Entries.descend, hopen, Key.full]

theorem run_fields {done : Entries} {fields : List (String × Toml)} (hname : name ∉ done.keys)
    (hfields : (below.keys ++ fields.map (·.1)).Nodup) :
    (fields.map fun field => Statement.entry ⟨[], field.1⟩ field.2).foldlM Draft.apply
        ⟨done ++ [(name, .table .header below)], [name]⟩ =
      some ⟨done ++ [(name, .table .header (below ++ finished fields))], [name]⟩ := by
  induction fields generalizing below with
  | nil =>
      rw [finished, List.map_nil, List.map_nil, List.append_nil]
      rfl
  | cons field fields ih =>
      have hkey : field.1 ∉ below.keys := fun hmem =>
        (List.nodup_append.mp hfields).2.2 _ hmem _ List.mem_cons_self rfl
      have hrest : (Entries.keys (below ++ [(field.1, .value field.2)]) ++
          fields.map (·.1)).Nodup := by
        simpa [Entries.keys] using hfields
      rw [List.map_cons, List.foldlM_cons, apply_entry hname hkey]
      refine (ih hrest).trans ?_
      simp [finished]

theorem run_blanks (blanks : Nat) (draft : Draft) :
    (List.replicate blanks Statement.blank).foldlM Draft.apply draft = some draft := by
  induction blanks with
  | zero => rfl
  | succ blanks ih => exact ih

theorem run_table {done : Entries} {current : List String} {t : FlatTable}
    (hname : t.name ∉ done.keys) (hfields : (t.fields.map (·.1)).Nodup) :
    t.statements.foldlM Draft.apply ⟨done, current⟩ =
      some ⟨done ++ [(t.name, .table .header (finished t.fields))], [t.name]⟩ := by
  rw [FlatTable.statements, List.foldlM_append, run_blanks]
  show (Draft.apply ⟨done, current⟩ (.header ⟨[], t.name⟩)).bind _ = _
  rw [apply_header hname]
  exact run_fields hname hfields

theorem run_tables (done : Entries) (current : List String) {tables : List FlatTable}
    (hnames : (done.keys ++ tables.map (·.name)).Nodup)
    (hfields : ∀ t ∈ tables, (t.fields.map (·.1)).Nodup) :
    ∃ last, (tables.flatMap FlatTable.statements).foldlM Draft.apply ⟨done, current⟩ =
      some ⟨done ++ tables.map fun t => (t.name, .table .header (finished t.fields)), last⟩ := by
  induction tables generalizing done current with
  | nil => exact ⟨current, by rw [List.map_nil, List.append_nil]; rfl⟩
  | cons t tables ih =>
      obtain ⟨hfirst, hothers⟩ := List.forall_mem_cons.mp hfields
      have hname : t.name ∉ done.keys := fun hmem =>
        (List.nodup_append.mp hnames).2.2 _ hmem _ List.mem_cons_self rfl
      have hrest : (Entries.keys (done ++ [(t.name, .table .header (finished t.fields))]) ++
          tables.map (·.name)).Nodup := by
        simpa [Entries.keys] using hnames
      obtain ⟨last, hlast⟩ := ih _ _ hrest hothers
      refine ⟨last, ?_⟩
      rw [List.flatMap_cons, List.foldlM_append, run_table hname hfirst]
      refine Eq.trans hlast ?_
      simp

theorem finishEntries_finished (fields : List (String × Toml)) :
    finishEntries (finished fields) = fields := by
  induction fields with
  | nil => rfl
  | cons field fields ih => exact congrArg (field :: ·) ih

theorem finishEntries_tables (tables : List FlatTable) :
    finishEntries (tables.map fun t => (t.name, .table .header (finished t.fields))) =
      tables.map FlatTable.value := by
  induction tables with
  | nil => rfl
  | cons t tables ih =>
      rw [List.map_cons, List.map_cons, finishEntries, ih, Node.finish, finishEntries_finished]
      rfl

/-- Tables with names of their own are there as they were written. -/
theorem ofStatements_tables {tables : List FlatTable} (hnames : (tables.map (·.name)).Nodup)
    (hfields : ∀ t ∈ tables, (t.fields.map (·.1)).Nodup) :
    ofStatements (tables.flatMap FlatTable.statements) =
      some (.table (tables.map FlatTable.value)) := by
  obtain ⟨last, hrun⟩ := run_tables [] [] hnames hfields
  rw [ofStatements, hrun, ← finishEntries_tables]
  rfl

end ClusterAccess.Toml
