import ClusterAccess.Proofs.Text.Form
import ClusterAccess.Wire.Request
import Mathlib.Data.List.TakeWhile

/-!
What can be read off a request target: the segments of its path, which stand between slashes, and
the parameters of its query, which stand between ampersands. Segments are read as they are and
parameters as forms.
-/

namespace ClusterAccess

open Text

/-! ### Texts in pieces -/

section Pieces

variable {x : Char} {cs : List Char} {pieces : List (List Char)}

theorem flatMap_cons_eq_intercalate :
    pieces.flatMap (x :: ·) = [x].intercalate ([] :: pieces) := by
  induction pieces with
  | nil => rfl
  | cons piece pieces ih =>
      rw [List.flatMap_cons, ih, List.intercalate_cons_cons]
      cases pieces <;> simp

/-- Pieces that each follow a mark are what lies between the marks. -/
theorem splitOn_flatMap_cons (hclean : ∀ piece ∈ pieces, x ∉ piece) :
    (pieces.flatMap (x :: ·)).splitOn x = [] :: pieces := by
  rw [flatMap_cons_eq_intercalate]
  apply List.splitOn_intercalate
  · simpa using hclean
  · simp

theorem not_mem_of_mem_splitOn : ∀ piece ∈ cs.splitOn x, x ∉ piece := by
  induction cs with
  | nil => simp
  | cons c cs ih =>
      rw [List.splitOn_cons_eq_if_modifyHead]
      split
      next => simpa using ih
      next hc =>
        cases hsplit : cs.splitOn x with
        | nil => exact absurd hsplit (List.splitOn_ne_nil x cs)
        | cons piece pieces =>
            rw [hsplit, List.forall_mem_cons] at ih
            rw [List.modifyHead_cons, List.forall_mem_cons]
            refine ⟨?_, ih.2⟩
            have hx : x ≠ c := fun heq => hc (beq_iff_eq.mpr heq.symm)
            exact List.not_mem_cons_of_ne_of_not_mem hx ih.1

theorem splitOn_eq_nil_cons (h : cs.splitOn x = [] :: pieces) :
    cs = pieces.flatMap (x :: ·) ∧ ∀ piece ∈ pieces, x ∉ piece := by
  have hcs : [x].intercalate (cs.splitOn x) = cs := List.intercalate_splitOn x
  rw [h, ← flatMap_cons_eq_intercalate] at hcs
  have hclean : ∀ piece ∈ cs.splitOn x, x ∉ piece := not_mem_of_mem_splitOn
  rw [h, List.forall_mem_cons] at hclean
  exact ⟨hcs.symm, hclean.2⟩

variable {front back : List Char}

theorem takeWhile_ne_self (hfront : x ∉ front) : front.takeWhile (· ≠ x) = front := by
  rw [List.takeWhile_eq_self_iff]
  intro c hc
  exact decide_eq_true fun heq => hfront (heq ▸ hc)

theorem takeWhile_ne (hfront : x ∉ front) : (front ++ x :: back).takeWhile (· ≠ x) = front := by
  rw [List.takeWhile_append_of_pos (List.takeWhile_eq_self_iff.mp (takeWhile_ne_self hfront)),
    List.takeWhile_cons_of_neg (by simp), List.append_nil]

theorem dropWhile_ne_self (hfront : x ∉ front) : front.dropWhile (· ≠ x) = [] := by
  rw [List.dropWhile_eq_nil_iff]
  exact List.takeWhile_eq_self_iff.mp (takeWhile_ne_self hfront)

theorem dropWhile_ne (hfront : x ∉ front) :
    (front ++ x :: back).dropWhile (· ≠ x) = x :: back := by
  rw [List.dropWhile_append_of_pos (List.takeWhile_eq_self_iff.mp (takeWhile_ne_self hfront)),
    List.dropWhile_cons_of_neg (by simp)]

end Pieces

/-! ### Paths -/

def pathOf (segments : List String) : String := String.join (segments.map ("/" ++ ·))

def segments? (path : String) : Option (List String) :=
  match path.toList.splitOn '/' with
  | [] :: segments => some (segments.map String.ofList)
  | _ => none

theorem toList_pathOf (segments : List String) :
    (pathOf segments).toList = (segments.map String.toList).flatMap ('/' :: ·) := by
  simp only [pathOf, String.toList_join, List.flatMap_map, String.toList_append]
  rfl

theorem pathOf_append (front back : List String) :
    pathOf (front ++ back) = pathOf front ++ pathOf back := by
  rw [pathOf, List.map_append, String.join_append]
  rfl

/-- A path has these segments exactly if it is made of them and no slash is in one of them. -/
theorem segments?_eq_some {path : String} {segments : List String} :
    segments? path = some segments ↔
      path = pathOf segments ∧ ∀ s ∈ segments, '/' ∉ s.toList := by
  constructor
  · intro h
    unfold segments? at h
    split at h
    next pieces hsplit =>
      obtain rfl := Option.some.inj h
      obtain ⟨hpath, hclean⟩ := splitOn_eq_nil_cons hsplit
      refine ⟨?_, by simpa using hclean⟩
      rw [← String.toList_inj, toList_pathOf, hpath]
      simp
    next => simp at h
  · rintro ⟨rfl, hclean⟩
    have hpieces : ∀ piece ∈ segments.map String.toList, '/' ∉ piece := by simpa using hclean
    have hsplit : (pathOf segments).toList.splitOn '/' = [] :: segments.map String.toList := by
      rw [toList_pathOf, splitOn_flatMap_cons hpieces]
    simp [segments?, hsplit, Function.comp_def]

/-! ### Queries -/

/-- The key and the value of a parameter. -/
def parameter? (part : List Char) : Option (String × String) := do
  let key ← Form.decode? (part.takeWhile (· ≠ '='))
  let value ← Form.decode? (part.dropWhile (· ≠ '=')).tail
  return (key, value)

/-- The parameters of a query. Nothing between two ampersands is no parameter. -/
def parameters? (query : String) : Option (List (String × String)) :=
  ((query.toList.splitOn '&').filter (· ≠ [])).mapM parameter?

def present (parameters : List (String × Option String)) : List (String × String) :=
  parameters.filterMap fun (key, value) => value.map (key, ·)

def isKey (key : String) : Bool := key.toList.all Char.isAlpha

def written (parameter : String × String) : List Char :=
  parameter.1.toList ++ '=' :: (Form.encode parameter.2).toList

variable {key value : String} {parameters : List (String × Option String)}

theorem ne_of_isAlpha {c d : Char} (hc : c.isAlpha = true) (hd : d.isAlpha = false) : c ≠ d := by
  rintro rfl
  rw [hc] at hd
  exact Bool.noConfusion hd

theorem not_mem_key {c : Char} (hkey : isKey key = true) (hc : c.isAlpha = false) :
    c ∉ key.toList := by
  intro hmem
  simp only [isKey, List.all_eq_true] at hkey
  exact ne_of_isAlpha (hkey c hmem) hc rfl

theorem bytes?_key (hkey : isKey key = true) :
    Form.bytes? key.toList = some (Utf8.encode key.toList) := by
  have hclean : ∀ c ∈ key.toList, c.isAlpha = true := by simpa [isKey] using hkey
  generalize key.toList = cs at hclean
  induction cs with
  | nil => rfl
  | cons c cs ih =>
      rw [List.forall_mem_cons] at hclean
      rw [Form.bytes?_itself (ne_of_isAlpha hclean.1 rfl) (ne_of_isAlpha hclean.1 rfl),
        ih hclean.2]
      simp [Utf8.encode]

theorem decode?_key (hkey : isKey key = true) : Form.decode? key.toList = some key := by
  rw [Form.decode?, bytes?_key hkey]
  exact Utf8.text?_encode key

theorem parameter?_written (hkey : isKey key = true) :
    parameter? (written (key, value)) = some (key, value) := by
  have hclean : '=' ∉ key.toList := not_mem_key hkey rfl
  simp only [parameter?, written]
  rw [takeWhile_ne hclean, dropWhile_ne hclean, List.tail_cons, decode?_key hkey,
    Form.decode?_encode]
  rfl

theorem mapM_parameter? {given : List (String × String)}
    (hkeys : ∀ p ∈ given, isKey p.1 = true) : (given.map written).mapM parameter? = some given := by
  induction given with
  | nil => rfl
  | cons p given ih =>
      obtain ⟨hkey, hkeys⟩ := List.forall_mem_cons.mp hkeys
      rw [List.map_cons, List.mapM_cons, parameter?_written hkey, ih hkeys]
      rfl

theorem not_mem_written (hkey : isKey key = true) : '&' ∉ written (key, value) := by
  intro hmem
  rcases List.mem_append.mp hmem with hin | hin
  · exact not_mem_key hkey rfl hin
  · rcases List.mem_cons.mp hin with heq | hin
    · exact absurd heq (by decide)
    · exact absurd (Form.isFormChar_encode hin) (by decide)

theorem toList_queryText :
    (queryText parameters).toList = ((present parameters).map written).flatMap ('&' :: ·) := by
  rw [queryText, String.toList_join]
  induction parameters with
  | nil => rfl
  | cons parameter parameters ih =>
      obtain ⟨key, value⟩ := parameter
      cases value <;> simp_all [present, written]

theorem isKey_of_present (hkeys : ∀ p ∈ parameters, isKey p.1 = true) :
    ∀ p ∈ present parameters, isKey p.1 = true := by
  intro p hp
  obtain ⟨⟨key, value⟩, hmem, hvalue⟩ := List.mem_filterMap.mp hp
  obtain ⟨text, -, rfl⟩ := Option.map_eq_some_iff.mp hvalue
  exact hkeys _ hmem

/-- The parameters that a query was made of are read back, those without a value as absent. -/
theorem parameters?_queryText (hkeys : ∀ p ∈ parameters, isKey p.1 = true) :
    parameters? (queryText parameters) = some (present parameters) := by
  have hpresent := isKey_of_present hkeys
  have hclean : ∀ part ∈ (present parameters).map written, '&' ∉ part := by
    intro part hpart
    obtain ⟨p, hp, rfl⟩ := List.mem_map.mp hpart
    exact not_mem_written (hpresent p hp)
  have hfull : ∀ part ∈ (present parameters).map written, decide (part ≠ []) = true := by
    intro part hpart
    obtain ⟨p, -, rfl⟩ := List.mem_map.mp hpart
    simp [written]
  rw [parameters?, toList_queryText, splitOn_flatMap_cons hclean,
    List.filter_cons_of_neg (by simp), List.filter_eq_self.mpr hfull, mapM_parameter? hpresent]

/-! ### Addresses -/

def urlOf (path : String) (query : Option String) : String :=
  match query with
  | some text => path ++ "?" ++ text
  | none => path

namespace RequestTarget

variable {cs : List Char} {target : RequestTarget} {path : String} {query : Option String}

/-- A target's path has neither of the marks that end a path. -/
theorem not_mem_path (h : ofChars cs = .ok target) :
    '?' ∉ target.path.toList ∧ '#' ∉ target.path.toList := by
  unfold ofChars at h
  extract_lets text path query at h
  split at h
  next =>
    obtain rfl := Except.ok.inj h
    simp only [String.toList_ofList]
    constructor
    · intro hmem
      simpa using List.mem_takeWhile_imp hmem
    · intro hmem
      simpa using List.mem_takeWhile_imp ((List.takeWhile_sublist _).mem hmem)
  next => simp at h

theorem ofChars_urlOf (hpath : '?' ∉ path.toList) (hfragment : '#' ∉ (urlOf path query).toList) :
    ofChars (urlOf path query).toList =
      if path.toList.all isPathChar && (query.getD "").toList.all isQueryChar then
        .ok ⟨path, query⟩
      else .error .invalidCharacter := by
  unfold ofChars
  extract_lets cs front back
  have hcs : cs = (urlOf path query).toList := takeWhile_ne_self hfragment
  have hparts : front = path.toList ∧ back = query.map String.toList := by
    simp only [front, back, hcs]
    cases query with
    | none => exact ⟨takeWhile_ne_self hpath, by rw [urlOf, dropWhile_ne_self hpath]; rfl⟩
    | some text =>
        have htext : (urlOf path (some text)).toList = path.toList ++ '?' :: text.toList := by
          simp [urlOf]
        rw [htext, takeWhile_ne hpath, dropWhile_ne hpath]
        exact ⟨rfl, rfl⟩
  rw [hparts.1, hparts.2]
  cases query <;> simp [String.ofList_toList]

end RequestTarget

/-- Paths that are cut nowhere stand in a request as they are, unless the address is too long or
has a character that no path has. -/
theorem addressed_urlOf {path : String} {query : Option String}
    (hpath : '?' ∉ path.toList ∧ '#' ∉ path.toList)
    (hquery : ∀ text, query = some text → text.toList.all RequestTarget.isQueryChar = true) :
    addressed (urlOf path query) =
      if Uri.lengthLimit < (urlOf path query).utf8ByteSize then .error (.address .tooLong)
      else if path.toList.all RequestTarget.isPathChar then .ok ⟨path, query⟩
      else .error (.address .invalidCharacter) := by
  have hlegal : (query.getD "").toList.all RequestTarget.isQueryChar = true := by
    cases query with
    | none => rfl
    | some text => exact hquery text rfl
  have hfragment : '#' ∉ (urlOf path query).toList := by
    intro hmem
    cases query with
    | none => exact hpath.2 hmem
    | some text =>
        have hmem : '#' ∈ path.toList ∨ '#' ∈ text.toList := by simpa [urlOf] using hmem
        rcases hmem with hin | hin
        · exact hpath.2 hin
        · have hall := hquery text rfl
          rw [List.all_eq_true] at hall
          exact absurd (hall _ hin) (by decide)
  unfold addressed
  rw [RequestTarget.ofChars_urlOf hpath.1 hfragment, hlegal, Bool.and_true]
  split
  next => rfl
  next => split <;> rfl

theorem code_of_isAlphanum {c : Char} (hc : c.isAlphanum = true) :
    48 ≤ c.toNat ∧ c.toNat ≤ 57 ∨ 65 ≤ c.toNat ∧ c.toNat ≤ 90 ∨ 97 ≤ c.toNat ∧ c.toNat ≤ 122 := by
  -- A letter of either case or a digit, each a range of codes.
  change (decide ('A'.val ≤ c.val ∧ c.val ≤ 'Z'.val) ||
    (decide ('a'.val ≤ c.val) && decide (c.val ≤ 'z'.val)) ||
    (decide ('0'.val ≤ c.val) && decide (c.val ≤ '9'.val))) = true at hc
  simp only [Bool.or_eq_true, Bool.and_eq_true, decide_eq_true_eq, UInt32.le_iff_toNat_le] at hc
  have hcode : c.toNat = c.val.toNat := rfl
  have hbounds : 'A'.val.toNat = 65 ∧ 'Z'.val.toNat = 90 ∧ 'a'.val.toNat = 97 ∧
    'z'.val.toNat = 122 ∧ '0'.val.toNat = 48 ∧ '9'.val.toNat = 57 := by decide
  omega

theorem isPathChar_of_isAlphanum {c : Char} (hc : c.isAlphanum = true) :
    RequestTarget.isPathChar c = true := by
  have hcode := code_of_isAlphanum hc
  simp only [RequestTarget.isPathChar, Bool.or_eq_true, Bool.and_eq_true, decide_eq_true_eq,
    beq_iff_eq]
  omega

theorem isQueryChar_of_isAlphanum {c : Char} (hc : c.isAlphanum = true) :
    RequestTarget.isQueryChar c = true := by
  have hcode := code_of_isAlphanum hc
  simp only [RequestTarget.isQueryChar, Bool.or_eq_true, Bool.and_eq_true, decide_eq_true_eq,
    beq_iff_eq]
  omega

theorem isQueryChar_of_isFormChar {c : Char} (hc : Form.isFormChar c = true) :
    RequestTarget.isQueryChar c = true := by
  simp only [Form.isFormChar, Bool.or_eq_true, decide_eq_true_eq] at hc
  obtain (((((halnum | rfl) | rfl) | rfl) | rfl) | rfl) | rfl := hc
  · exact isQueryChar_of_isAlphanum halnum
  all_goals rfl

theorem queryText_legal (hkeys : ∀ p ∈ parameters, isKey p.1 = true) :
    (queryText parameters).toList.all RequestTarget.isQueryChar = true := by
  rw [List.all_eq_true, toList_queryText]
  intro c hc
  obtain ⟨part, hpart, hc⟩ := List.mem_flatMap.mp hc
  obtain ⟨⟨key, value⟩, hp, rfl⟩ := List.mem_map.mp hpart
  have hkey := isKey_of_present hkeys _ hp
  simp only [isKey, List.all_eq_true] at hkey
  simp only [written, List.mem_cons, List.mem_append] at hc
  rcases hc with rfl | hc | rfl | hc
  · rfl
  · exact isQueryChar_of_isAlphanum (by simp [Char.isAlphanum, hkey c hc])
  · rfl
  · exact isQueryChar_of_isFormChar (Form.isFormChar_encode hc)

end ClusterAccess
