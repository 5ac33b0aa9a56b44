import ClusterAccess.Json.Basic
import ClusterAccess.Proofs.Wire.Target
import ClusterAccess.Resource.Operation

/-!
What the control plane reads off a field selector. A selector is cut at its commas, and each part at
its first equals sign; in a value these two and the escape character stand after an escape
character. A name that is put into a selector as it is comes out as it is exactly if it has none of
the three.
-/

namespace ClusterAccess

structure Requirement where
  path : String
  value : String
  deriving DecidableEq

namespace FieldSelector

def isSpecial (c : Char) : Bool := c == ',' || c == '=' || c == '\\'

/-- The parts between the commas, but for those commas that stand after an escape character. -/
def parts : List Char → List (List Char)
  | [] => [[]]
  | '\\' :: c :: rest => (parts rest).modifyHead ('\\' :: c :: ·)
  | ',' :: rest => [] :: parts rest
  | c :: rest => (parts rest).modifyHead (c :: ·)

def unescape? : List Char → Option (List Char)
  | [] => some []
  | '\\' :: c :: rest => if isSpecial c then (c :: ·) <$> unescape? rest else none
  | c :: rest => if isSpecial c then none else (c :: ·) <$> unescape? rest

def requirement? (part : List Char) : Option Requirement :=
  match part.dropWhile (· ≠ '=') with
  | [] => none
  | _ :: value =>
    (unescape? value).map fun text => ⟨.ofList (part.takeWhile (· ≠ '=')), .ofList text⟩

/-- The requirements of a selector. Nothing between two commas is no requirement. -/
def read? (selector : String) : Option (List Requirement) :=
  ((parts selector.toList).filter (· ≠ [])).mapM requirement?

variable {cs front back : List Char} {kind name : String}

/-! ### Parts -/

/-- What neither cuts nor escapes belongs to the part that is begun. -/
theorem parts_append (hcomma : ',' ∉ front) (hescape : '\\' ∉ front) :
    parts (front ++ back) = (parts back).modifyHead (front ++ ·) := by
  induction front with
  | nil => cases hback : parts back <;> simp [hback]
  | cons c front ih =>
      rw [List.mem_cons, not_or] at hcomma hescape
      have hcons : parts (c :: (front ++ back)) = (parts (front ++ back)).modifyHead (c :: ·) := by
        rw [parts]
        · exact fun _ _ hc => absurd hc.symm hescape.1
        · exact fun hc => absurd hc.symm hcomma.1
      rw [List.cons_append, hcons, ih hcomma.2 hescape.2, List.modifyHead_modifyHead]
      rfl

theorem exists_parts_eq (cs : List Char) : ∃ first others, parts cs = first :: others ∧
    first <+: cs := by
  fun_induction parts cs with
  | case1 => exact ⟨[], [], rfl, List.prefix_rfl⟩
  | case2 c rest ih =>
      obtain ⟨first, others, heq, hprefix⟩ := ih
      rw [heq]
      exact ⟨_, others, rfl, by simpa using hprefix⟩
  | case3 rest => exact ⟨[], _, rfl, List.nil_prefix⟩
  | case4 c rest _ _ ih =>
      obtain ⟨first, others, heq, hprefix⟩ := ih
      rw [heq]
      exact ⟨_, others, rfl, by simpa using hprefix⟩

/-! ### Values -/

theorem requirement?_eq (hpath : '=' ∉ front) :
    requirement? (front ++ '=' :: back) =
      (unescape? back).map fun text => ⟨.ofList front, .ofList text⟩ := by
  rw [requirement?, dropWhile_ne hpath, takeWhile_ne hpath]

theorem length_unescape? {text : List Char} (h : unescape? cs = some text) :
    text.length ≤ cs.length := by
  fun_induction unescape? cs generalizing text with
  | case1 =>
      obtain rfl := Option.some.inj h
      exact Nat.le_refl _
  | case2 c rest hc ih =>
      obtain ⟨text, htext, rfl⟩ := Option.map_eq_some_iff.mp h
      have hlength := ih htext
      simp only [List.length_cons]
      omega
  | case3 => cases h
  | case4 => cases h
  | case5 c rest _ hc ih =>
      obtain ⟨text, htext, rfl⟩ := Option.map_eq_some_iff.mp h
      exact Nat.succ_le_succ (ih htext)

/-- Only a value without special characters is written as it is: each escape makes it longer. -/
theorem unescape?_eq_self_iff : unescape? cs = some cs ↔ ∀ c ∈ cs, isSpecial c = false := by
  fun_induction unescape? cs with
  | case1 => simp
  | case2 c rest hc ih =>
      refine iff_of_false (fun h => ?_) (fun h => absurd (h '\\' (by simp)) (by decide))
      obtain ⟨text, htext, heq⟩ := Option.map_eq_some_iff.mp h
      have hlength := length_unescape? htext
      obtain ⟨-, rfl⟩ := List.cons.inj heq
      simp only [List.length_cons] at hlength
      omega
  | case3 c rest hc =>
      exact iff_of_false (by simp) (fun h => absurd (h '\\' (by simp)) (by decide))
  | case4 c rest _ hc =>
      exact iff_of_false (by simp) (fun h => absurd (h c (by simp)) (by simp [hc]))
  | case5 c rest _ hc ih => simp [hc, ih]

theorem not_mem_of_plain (hcs : ∀ c ∈ cs, isSpecial c = false) (c : Char)
    (hc : isSpecial c = true) : c ∉ cs := by
  intro hmem
  rw [hcs c hmem] at hc
  cases hc

/-! ### The selector of an object's events -/

def concerning (kind name : String) : List Requirement :=
  [⟨"involvedObject.kind", kind⟩, ⟨"involvedObject.name", name⟩]

/-- The parts before the name are read as they are meant. Of the name, its first part is the value
and all others are requirements of their own. -/
theorem read?_involvedObject {first : List Char} {others : List (List Char)}
    (hkind : ∀ c ∈ kind.toList, isSpecial c = false)
    (hparts : parts name.toList = first :: others) :
    (Selectors.involvedObject kind name).fields.bind read? =
      (unescape? first).bind fun text =>
        ((others.filter (· ≠ [])).mapM requirement?).map fun more =>
          concerning kind (.ofList text) ++ more := by
  have hselector : ("involvedObject.kind=" ++ kind ++ ",involvedObject.name=" ++ name).toList =
      ("involvedObject.kind".toList ++ '=' :: kind.toList) ++
        ',' :: ("involvedObject.name=".toList ++ name.toList) := by
    simp [String.toList_append]
  have hcut : parts ("involvedObject.kind=" ++ kind ++ ",involvedObject.name=" ++ name).toList =
      ("involvedObject.kind".toList ++ '=' :: kind.toList) ::
        ("involvedObject.name".toList ++ '=' :: first) :: others := by
    rw [hselector, parts_append, parts, parts_append (by decide) (by decide), hparts]
    · simp
    · simpa using not_mem_of_plain hkind ',' rfl
    · simpa using not_mem_of_plain hkind '\\' rfl
  rw [Selectors.involvedObject, Option.bind_some, read?, hcut, List.filter_cons_of_pos (by simp),
    List.filter_cons_of_pos (by simp), List.mapM_cons, requirement?_eq (by decide),
    unescape?_eq_self_iff.mpr hkind, List.mapM_cons, requirement?_eq (by decide)]
  have hkind : String.ofList kind.toList = kind := String.ofList_toList
  rw [Option.map_some, hkind]
  cases unescape? first with
  | none => rfl
  | some text => cases (others.filter (· ≠ [])).mapM requirement? <;> rfl

/-- Only a name without special characters is the value that is required. -/
theorem read?_involvedObject_iff (hkind : ∀ c ∈ kind.toList, isSpecial c = false) :
    (Selectors.involvedObject kind name).fields.bind read? = some (concerning kind name) ↔
      ∀ c ∈ name.toList, isSpecial c = false := by
  obtain ⟨first, others, hparts, hprefix⟩ := exists_parts_eq name.toList
  rw [read?_involvedObject hkind hparts]
  constructor
  · intro h
    obtain ⟨text, htext, hmore⟩ := Option.bind_eq_some_iff.mp h
    obtain ⟨more, -, heq⟩ := Option.map_eq_some_iff.mp hmore
    have hname : String.ofList text = name := by
      simp only [concerning, List.cons_append, List.nil_append, List.cons.injEq,
        Requirement.mk.injEq] at heq
      exact heq.2.1.2
    -- Both cutting and escaping would have made the value shorter than the name.
    obtain rfl : text = name.toList := by rw [← hname, String.toList_ofList]
    obtain rfl := hprefix.eq_of_length_le (length_unescape? htext)
    exact unescape?_eq_self_iff.mp htext
  · intro hclean
    have hcut : parts name.toList = [name.toList] := by
      have happend : parts (name.toList ++ []) = _ :=
        parts_append (not_mem_of_plain hclean ',' rfl) (not_mem_of_plain hclean '\\' rfl)
      simpa [parts] using happend
    obtain ⟨rfl, rfl⟩ := List.cons.inj (hcut.symm.trans hparts)
    rw [unescape?_eq_self_iff.mpr hclean, Option.bind_some, String.ofList_toList]
    rfl

/-- An escaped comma would be taken for another name. -/
example : (Selectors.involvedObject "Pod" "a\\,b").fields.bind read? =
    some (concerning "Pod" "a,b") := by decide

end FieldSelector

/-! ### What is selected -/

def Json.textAt? (path : String) (v : Json) : Option String :=
  ((path.toList.splitOn '.').foldlM (fun v field => field? (.ofList field) v) v).bind (·.text?)

def Requirement.isMetBy (r : Requirement) (v : Json) : Bool := v.textAt? r.path == some r.value

/-- The objects that meet all requirements of a selector, if it can be read. -/
def FieldSelector.select? (selector : String) (objects : List Json) : Option (List Json) :=
  (read? selector).map fun requirements =>
    objects.filter fun v => requirements.all (·.isMetBy v)

/-- Whether the object that an event is about has this kind and this name. -/
def concerns (kind name : String) (event : Json) : Bool :=
  (event.field? "involvedObject").any fun object =>
    (object.field? "kind").bind (·.text?) == some kind &&
      (object.field? "name").bind (·.text?) == some name

theorem all_concerning (kind name : String) (event : Json) :
    (FieldSelector.concerning kind name).all (·.isMetBy event) = concerns kind name event := by
  have hkind : "involvedObject.kind".toList.splitOn '.' =
      ["involvedObject".toList, "kind".toList] := by decide
  have hname : "involvedObject.name".toList.splitOn '.' =
      ["involvedObject".toList, "name".toList] := by decide
  simp only [FieldSelector.concerning, List.all_cons, List.all_nil, Requirement.isMetBy,
    Json.textAt?, hkind, hname, List.foldlM_cons, List.foldlM_nil, String.ofList_toList]
  cases hobject : event.field? "involvedObject" with
  | none => simp [concerns, hobject]
  | some object => simp [concerns, hobject]

theorem FieldSelector.select?_of_read? {selector kind name : String}
    (h : read? selector = some (concerning kind name)) (events : List Json) :
    select? selector events = some (events.filter (concerns kind name)) := by
  rw [select?, h, Option.map_some]
  exact congrArg some (List.filter_congr fun event _ => all_concerning kind name event)

end ClusterAccess
