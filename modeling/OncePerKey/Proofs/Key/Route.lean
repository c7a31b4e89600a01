import Mathlib.Data.List.DropRight
import Mathlib.Logic.Relation
import OncePerKey.Key.Composite
import OncePerKey.Proofs.Text.LowerCase

set_option autoImplicit false

namespace OncePerKey

namespace Text

variable {p q : Char → Bool} {s t : List Char} {c : Char}

theorem trimEnd_eq (p : Char → Bool) (s : List Char) : trimEnd p s = s.rdropWhile p := rfl

theorem trimEnd_begins (p : Char → Bool) (s : List Char) : trimEnd p s <+: s :=
  List.rdropWhile_prefix _ _

theorem trimEnd_append (inside : ∀ c ∈ t, p c = true) (s : List Char) : trimEnd p (s ++ t) = trimEnd p s := by
  rw [trimEnd, List.reverse_append, List.dropWhile_append_of_pos (by simpa using inside)]
  rfl

theorem trimEnd_trimEnd (narrower : ∀ c, q c = true → p c = true) (s : List Char) :
    trimEnd p (trimEnd q s) = trimEnd p s := by
  have inside : ∀ c ∈ s.rtakeWhile q, p c = true := fun c present =>
    narrower c (List.mem_rtakeWhile_imp present)
  rw [← trimEnd_append inside, trimEnd_eq q, List.rdropWhile_append_rtakeWhile]

theorem not_of_getLast?_trimEnd (last : (trimEnd p s).getLast? = some c) : p c = false := by
  have filled : s.rdropWhile p ≠ [] := by
    intro empty
    rw [trimEnd_eq, empty] at last
    exact nomatch last
  have final := List.rdropWhile_last_not p s filled
  rw [trimEnd_eq, List.getLast?_eq_some_getLast filled, Option.some.injEq] at last
  rwa [last, Bool.not_eq_true] at final

theorem trimEnd_eq_self (outside : ∀ c, s.getLast? = some c → p c = false) : trimEnd p s = s := by
  rw [trimEnd_eq, List.rdropWhile_eq_self_iff]
  intro filled
  simpa using outside _ (List.getLast?_eq_some_getLast filled)

theorem not_of_head?_trimStart (head : (trimStart p s).head? = some c) : p c = false := by
  have first := List.head?_dropWhile_not p s
  rw [trimStart] at head
  rwa [head] at first

theorem trimStart_eq_self (outside : ∀ c, s.head? = some c → p c = false) : trimStart p s = s := by
  cases s with
  | nil => rfl
  | cons c rest => simp [trimStart, outside c rfl]

theorem trimStart_map {f : Char → Char} (same : ∀ c, p (f c) = p c) (s : List Char) :
    trimStart p (s.map f) = (trimStart p s).map f := by
  have through : p ∘ f = p := funext same
  rw [trimStart, List.dropWhile_map, through]
  rfl

theorem trimEnd_map {f : Char → Char} (same : ∀ c, p (f c) = p c) (s : List Char) :
    trimEnd p (s.map f) = (trimEnd p s).map f := by
  have through : p ∘ f = p := funext same
  rw [trimEnd, ← List.map_reverse, List.dropWhile_map, through, ← List.map_reverse]
  rfl

theorem head?_of_begins (part : s <+: t) (head : s.head? = some c) : t.head? = some c := by
  obtain ⟨behind, rfl⟩ := part
  rw [List.head?_append, head, Option.some_or]

theorem trimBoth_trimBoth (p : Char → Bool) (s : List Char) : trimBoth p (trimBoth p s) = trimBoth p s := by
  have starts : trimStart p (trimBoth p s) = trimBoth p s :=
    trimStart_eq_self fun c head => not_of_head?_trimStart (head?_of_begins (trimEnd_begins p _) head)
  rw [trimBoth, starts, trimBoth, trimEnd_trimEnd fun _ => id]

theorem trimBoth_map {f : Char → Char} (same : ∀ c, p (f c) = p c) (s : List Char) :
    trimBoth p (s.map f) = (trimBoth p s).map f := by
  rw [trimBoth, trimStart_map same, trimEnd_map same, trimBoth]

theorem isBlank_slash : isBlank '/' = false := by decide

end Text

namespace Route

open Text

variable {route other : List Char} {c : Char}

-- What is lowered of a route.
def kept (route : List Char) : List Char :=
  trimEnd (· == '/') (trimBoth isBlank route)

theorem kept_begins (route : List Char) : kept route <+: trimStart isBlank route :=
  (trimEnd_begins _ _).trans (trimEnd_begins _ _)

def outline (route : List Char) : List Char :=
  trimEnd isClosing (trimStart isBlank route)

-- What is kept behind the outline: blanks, and slashes between them.
def residue (route : List Char) : List Char :=
  (kept route).rtakeWhile isClosing

theorem outline_append_residue (route : List Char) : outline route ++ residue route = kept route := by
  have core : outline route = trimEnd isClosing (kept route) := by
    rw [kept, trimBoth, trimEnd_trimEnd fun c slash => isClosing_iff.2 (.inr (by simpa using slash)),
      trimEnd_trimEnd fun c => isClosing_of_isBlank, outline]
  rw [core, residue, trimEnd_eq, List.rdropWhile_append_rtakeWhile]

theorem isClosing_of_mem_residue (present : c ∈ residue route) : isClosing c = true :=
  List.mem_rtakeWhile_imp present

theorem getLast?_kept (filled : residue route ≠ []) : (kept route).getLast? = (residue route).getLast? := by
  rw [← outline_append_residue, List.getLast?_append_of_ne_nil _ filled]

theorem exists_blank_of_residue (filled : residue route ≠ []) :
    ∃ c, (residue route).getLast? = some c ∧ isBlank c = true := by
  have last := List.getLast?_eq_some_getLast filled
  refine ⟨_, last, ?_⟩
  rw [← getLast?_kept filled] at last
  have unslashed := not_of_getLast?_trimEnd last
  have closing := isClosing_of_mem_residue (List.getLast_mem filled)
  rcases isClosing_iff.1 closing with blank | slash
  · exact blank
  · simp [slash] at unslashed

theorem head?_residue (bare : outline route = []) (head : (residue route).head? = some c) : c = '/' := by
  have same := outline_append_residue route
  rw [bare, List.nil_append] at same
  rw [same] at head
  have unblank := not_of_head?_trimStart (head?_of_begins (kept_begins route) head)
  rw [← same] at head
  rcases isClosing_iff.1 (isClosing_of_mem_residue (List.mem_of_head? head)) with blank | slash
  · simp [blank] at unblank
  · exact slash

def rooted : List Char → List Char
  | '/' :: rest => '/' :: rest
  | cs => '/' :: cs

theorem rooted_of_head? {cs : List Char} (head : cs.head? = some '/') : rooted cs = cs := by
  cases cs with
  | nil => exact nomatch head
  | cons c rest =>
    obtain rfl := Option.some.inj head
    rfl

theorem rooted_of_ne {cs : List Char} (head : cs.head? ≠ some '/') : rooted cs = '/' :: cs := by
  unfold rooted
  split
  · exact absurd rfl head
  · rfl

@[simp] theorem head?_rooted (cs : List Char) : (rooted cs).head? = some '/' := by
  by_cases head : cs.head? = some '/'
  · rwa [rooted_of_head? head]
  · rw [rooted_of_ne head]
    rfl

theorem getLast?_rooted {cs : List Char} (filled : cs ≠ []) : (rooted cs).getLast? = cs.getLast? := by
  by_cases head : cs.head? = some '/'
  · rw [rooted_of_head? head]
  · rw [rooted_of_ne head, List.getLast?_cons, List.getLast?_eq_some_getLast filled]
    rfl

theorem rooted_cons_append_inj {rest s t : List Char} :
    rooted (c :: rest ++ s) = rooted (c :: rest ++ t) ↔ s = t := by
  refine ⟨fun same => ?_, fun same => by rw [same]⟩
  by_cases slash : c = '/'
  · subst slash
    change '/' :: rest ++ s = '/' :: rest ++ t at same
    exact List.append_cancel_left same
  · rw [rooted_of_ne (by simpa using slash), rooted_of_ne (by simpa using slash)] at same
    exact List.append_cancel_left (List.cons.inj same).2

theorem rooted_residue (bare : outline route = []) :
    residue route = [] ∨ rooted (residue route) = residue route ∧ residue route ≠ ['/'] := by
  cases left : residue route with
  | nil => exact .inl rfl
  | cons c rest =>
    obtain rfl := head?_residue bare (congrArg List.head? left)
    refine .inr ⟨rfl, fun alone => ?_⟩
    obtain ⟨d, last, blank⟩ := exists_blank_of_residue (by rw [left]; exact List.cons_ne_nil _ _)
    rw [left, alone] at last
    cases last
    exact nomatch isBlank_slash.symm.trans blank

def core (route : List Char) : List Char :=
  lowerFrom [] [] (outline route)

theorem normalizeRoute_eq (route : String) :
    normalizeRoute route = String.ofList (rooted (core route.toList ++ residue route.toList)) := by
  have lowers : lowerFrom [] [] (kept route.toList) = core route.toList ++ residue route.toList := by
    rw [← outline_append_residue, core, lowerFrom_append fun c => isClosing_of_mem_residue]
  rw [← lowers]
  unfold normalizeRoute rooted kept
  split <;> simp_all

theorem core_eq_nil_iff : core route = [] ↔ outline route = [] :=
  lowerFrom_eq_nil_iff

theorem residue_of_getLast? (last : (core route ++ residue route).getLast? = some c)
    (closing : isClosing c = true) : residue route ≠ [] ∧ isBlank c = true := by
  by_cases bare : residue route = []
  · rw [bare, List.append_nil] at last
    have outlined := not_of_getLast?_trimEnd (getLast?_of_lowerFrom last closing)
    exact nomatch outlined.symm.trans closing
  · obtain ⟨d, final, blank⟩ := exists_blank_of_residue bare
    rw [List.getLast?_append_of_ne_nil _ bare, final] at last
    cases last
    exact ⟨bare, blank⟩

def form (route : List Char) : List Char :=
  rooted (core route ++ residue route)

theorem head?_form (route : List Char) : (form route).head? = some '/' :=
  head?_rooted _

theorem form_eq_root_of_getLast? (last : (form route).getLast? = some '/') : form route = ['/'] := by
  by_cases bare : core route ++ residue route = []
  · rw [form, bare]
    rfl
  · rw [form, getLast?_rooted bare] at last
    obtain ⟨-, blank⟩ := residue_of_getLast? last (by decide)
    exact nomatch isBlank_slash.symm.trans blank

theorem exists_blank_getLast?_form_iff :
    (∃ c, (form route).getLast? = some c ∧ isBlank c = true) ↔ residue route ≠ [] := by
  constructor
  · rintro ⟨c, last, blank⟩
    by_cases bare : core route ++ residue route = []
    · rw [form, bare] at last
      cases last
      exact nomatch isBlank_slash.symm.trans blank
    · rw [form, getLast?_rooted bare] at last
      exact (residue_of_getLast? last (isClosing_of_isBlank blank)).1
  · intro filled
    obtain ⟨c, last, blank⟩ := exists_blank_of_residue filled
    refine ⟨c, ?_, blank⟩
    rw [form, getLast?_rooted (List.append_ne_nil_of_right_ne_nil _ filled),
      List.getLast?_append_of_ne_nil _ filled, last]

theorem isSettled_of_mem_form (present : c ∈ form route) : IsSettled c := by
  have inside : c = '/' ∨ c ∈ core route ++ residue route := by
    rw [form] at present
    by_cases head : (core route ++ residue route).head? = some '/'
    · rw [rooted_of_head? head] at present
      exact .inr present
    · rw [rooted_of_ne head] at present
      exact List.mem_cons.1 present
  rcases inside with rfl | inside
  · exact isSettled_of_isClosing (by decide)
  · rcases List.mem_append.1 inside with made | left
    · exact isSettled_of_mem_lowerFrom made
    · exact isSettled_of_isClosing (isClosing_of_mem_residue left)

theorem lowerFrom_form (route : List Char) : lowerFrom [] [] (form route) = form route :=
  lowerFrom_of_isSettled fun _ => isSettled_of_mem_form

theorem form_form_eq_rooted (route : List Char) : form (form route) = rooted (kept (form route)) := by
  have lowers : lowerFrom [] [] (kept (form route)) = kept (form route) :=
    lowerFrom_of_isSettled fun c present =>
      isSettled_of_mem_form ((List.dropWhile_sublist _).subset ((kept_begins _).subset present))
  rw [form, core, ← lowerFrom_append fun c => isClosing_of_mem_residue, outline_append_residue, lowers]

theorem trimStart_form (route : List Char) : trimStart isBlank (form route) = form route := by
  refine trimStart_eq_self fun c head => ?_
  rw [head?_form] at head
  cases head
  exact isBlank_slash

theorem kept_form (route : List Char) :
    kept (form route) = trimEnd (· == '/') (trimEnd isBlank (form route)) := by
  rw [kept, trimBoth, trimStart_form]

theorem trimEnd_form_iff : trimEnd isBlank (form route) = form route ↔ residue route = [] := by
  rw [← not_iff_not, ← ne_eq (residue route), ← exists_blank_getLast?_form_iff]
  constructor
  · intro cut
    by_contra! unblank
    exact cut (trimEnd_eq_self fun c last => by simpa using unblank c last)
  · rintro ⟨c, last, blank⟩ uncut
    rw [← uncut] at last
    exact nomatch (not_of_getLast?_trimEnd last).symm.trans blank

theorem kept_form_of_form_form (same : form (form route) = form route) :
    form route = ['/'] ∨ kept (form route) = form route := by
  rw [form_form_eq_rooted] at same
  cases keeps : kept (form route) with
  | nil =>
    rw [keeps] at same
    exact .inl same.symm
  | cons c rest =>
    have begins := kept_begins (form route)
    rw [keeps, trimStart_form] at begins
    have head : (c :: rest).head? = some '/' := (head?_of_begins begins rfl).symm.trans (head?_form route)
    refine .inr ?_
    rw [← same, keeps, rooted_of_head? head]

theorem form_form_eq_iff : form (form route) = form route ↔ residue route = [] := by
  constructor
  · intro same
    rw [← trimEnd_form_iff]
    rcases kept_form_of_form_form same with root | uncut
    · rw [root]
      decide
    · -- What takes nothing off together takes nothing off first.
      rw [kept_form] at uncut
      refine (trimEnd_begins _ _).eq_of_length_le ?_
      nth_rewrite 1 [← uncut]
      exact (trimEnd_begins _ _).length_le
  · intro bare
    rw [form_form_eq_rooted, kept_form, trimEnd_form_iff.2 bare]
    by_cases root : form route = ['/']
    · rw [root]
      rfl
    · rw [trimEnd_eq_self fun c last => ?_, rooted_of_head? (head?_form route)]
      by_contra slash
      obtain rfl : c = '/' := by simpa using slash
      exact root (form_eq_root_of_getLast? last)

inductive Respells : List Char → List Char → Prop where
  | case (s t : List Char) (same : s.map asciiLower = t.map asciiLower) : Respells s t
  | blankBefore (s : List Char) (c : Char) (blank : isBlank c = true) : Respells s (c :: s)
  | blankAfter (s : List Char) (c : Char) (blank : isBlank c = true) : Respells s (s ++ [c])
  | slashAfter (s : List Char) : Respells s (s ++ ['/'])

theorem outline_append (closing : isClosing c = true) (s : List Char) : outline (s ++ [c]) = outline s := by
  have last : ∀ d ∈ [c], isClosing d = true := by simpa using closing
  rw [outline, outline, trimStart, trimStart, List.dropWhile_append]
  split
  · rename_i blank
    rw [List.isEmpty_iff.1 blank]
    by_cases alone : isBlank c
    · simp [alone]
    · simp only [List.dropWhile_cons, alone]
      exact trimEnd_append last []
  · exact trimEnd_append last _

theorem outline_map_asciiLower (s : List Char) : outline (s.map asciiLower) = (outline s).map asciiLower := by
  rw [outline, trimStart_map isBlank_asciiLower, trimEnd_map isClosing_asciiLower, outline]

theorem core_map_asciiLower (s : List Char) : core (s.map asciiLower) = core s := by
  rw [core, outline_map_asciiLower]
  exact lowerFrom_map_asciiLower [] [] _

theorem core_of_respells {s t : List Char} (respells : Respells s t) : core s = core t := by
  cases respells with
  | case _ same => rw [← core_map_asciiLower s, same, core_map_asciiLower]
  | blankBefore c blank =>
    have before : trimStart isBlank (c :: s) = trimStart isBlank s := by simp [trimStart, blank]
    rw [core, core, outline, outline, before]
  | blankAfter c blank => rw [core, core, outline_append (isClosing_of_isBlank blank)]
  | slashAfter => rw [core, core, outline_append (by decide)]

theorem core_of_eqvGen {s t : List Char} (spelled : Relation.EqvGen Respells s t) : core s = core t := by
  induction spelled with
  | rel s t respells => exact core_of_respells respells
  | refl => rfl
  | symm s t _ ih => exact ih.symm
  | trans s t u _ _ ih ih' => exact ih.trans ih'

theorem form_eq_iff {s t : List Char} (spelled : core s = core t) :
    form s = form t ↔ residue s = residue t := by
  rw [form, form, spelled]
  cases outlined : core t with
  | cons c rest => exact rooted_cons_append_inj
  | nil =>
    refine ⟨fun same => ?_, fun same => by rw [same]⟩
    rw [List.nil_append, List.nil_append] at same
    rcases rooted_residue (core_eq_nil_iff.1 (spelled.trans outlined)) with none | ⟨root, unequal⟩ <;>
      rcases rooted_residue (core_eq_nil_iff.1 outlined) with none' | ⟨root', unequal'⟩
    · rw [none, none']
    · rw [none, root'] at same
      exact absurd same.symm unequal'
    · rw [none', root] at same
      exact absurd same unequal
    · rwa [root, root'] at same

def SplitEnd (route : List Char) : Prop :=
  ∃ before b slashes after, route = before ++ b :: slashes ++ after ∧ (∃ c ∈ before, isBlank c = false) ∧
    isBlank b = true ∧ slashes ≠ [] ∧ (∀ c ∈ slashes, c = '/') ∧ ∀ c ∈ after, isBlank c = true

theorem splitEnd_of_residue (filled : residue route ≠ []) : SplitEnd route := by
  obtain ⟨b, last, blank⟩ := exists_blank_of_residue filled
  rw [← getLast?_kept filled] at last
  obtain ⟨front, keeps⟩ := List.getLast?_eq_some_iff.1 last
  have lead : route.takeWhile isBlank ++ trimStart isBlank route = route := List.takeWhile_append_dropWhile
  have tail : trimBoth isBlank route ++ (trimStart isBlank route).rtakeWhile isBlank =
      trimStart isBlank route :=
    List.rdropWhile_append_rtakeWhile
  have slashed : kept route ++ (trimBoth isBlank route).rtakeWhile (· == '/') = trimBoth isBlank route :=
    List.rdropWhile_append_rtakeWhile
  refine ⟨route.takeWhile isBlank ++ front, b, (trimBoth isBlank route).rtakeWhile (· == '/'),
    (trimStart isBlank route).rtakeWhile isBlank, ?_, ?_, blank, ?_, ?_, ?_⟩
  · have whole : route.takeWhile isBlank ++ (kept route ++ (trimBoth isBlank route).rtakeWhile (· == '/') ++
        (trimStart isBlank route).rtakeWhile isBlank) = route := by rw [slashed, tail, lead]
    rw [keeps] at whole
    exact whole.symm.trans (by simp)
  · have starts := kept_begins route
    rw [keeps] at starts
    cases front with
    | nil =>
      have unblank := not_of_head?_trimStart (head?_of_begins starts rfl)
      exact nomatch unblank.symm.trans blank
    | cons c rest => exact ⟨c, by simp, not_of_head?_trimStart (head?_of_begins starts rfl)⟩
  · intro none
    rw [none, List.append_nil] at slashed
    rw [slashed] at last
    exact nomatch (not_of_getLast?_trimEnd last).symm.trans blank
  · intro c present
    simpa using List.mem_rtakeWhile_imp present
  · intro c present
    exact List.mem_rtakeWhile_imp present

theorem kept_of_split {before slashes after : List Char} {b : Char} (begun : ∃ c ∈ before, isBlank c = false)
    (blank : isBlank b = true) (filled : slashes ≠ []) (slash : ∀ c ∈ slashes, c = '/')
    (blanks : ∀ c ∈ after, isBlank c = true) :
    kept (before ++ b :: slashes ++ after) = trimStart isBlank before ++ [b] := by
  have starts : trimStart isBlank (before ++ b :: slashes ++ after) =
      trimStart isBlank before ++ b :: slashes ++ after := by
    have nonempty : (before.dropWhile isBlank).isEmpty = false := by
      obtain ⟨c, inside, unblank⟩ := begun
      rw [← Bool.not_eq_true, List.isEmpty_iff, List.dropWhile_eq_nil_iff]
      exact fun all => nomatch unblank.symm.trans (all c inside)
    rw [List.append_assoc, trimStart, List.dropWhile_append, nonempty, if_neg Bool.false_ne_true,
      ← List.append_assoc]
    rfl
  have ends : trimEnd isBlank (trimStart isBlank before ++ b :: slashes) =
      trimStart isBlank before ++ b :: slashes := by
    refine trimEnd_eq_self fun c last => ?_
    rw [List.append_cons, List.getLast?_append_of_ne_nil _ filled] at last
    rw [slash c (List.mem_of_getLast? last)]
    exact isBlank_slash
  have slashed : ∀ c ∈ slashes, (c == '/') = true := fun c inside => by simpa using slash c inside
  rw [kept, trimBoth, starts, trimEnd_append blanks, ends, List.append_cons, trimEnd_append slashed]
  refine trimEnd_eq_self fun c last => ?_
  obtain rfl : b = c := by simpa using last
  by_contra same
  obtain rfl : b = '/' := by simpa using same
  exact nomatch isBlank_slash.symm.trans blank

theorem residue_ne_nil_iff : residue route ≠ [] ↔ SplitEnd route := by
  refine ⟨splitEnd_of_residue, ?_⟩
  rintro ⟨before, b, slashes, after, rfl, begun, blank, filled, slash, blanks⟩
  rw [residue, kept_of_split begun blank filled slash blanks,
    List.rtakeWhile_concat_pos _ _ _ (isClosing_of_isBlank blank)]
  exact List.concat_ne_nil _ _

end Route

namespace CompositeKey

open Route Text

theorem toList_route (method route : String) (key : Key) :
    (build method route key).route.toList = form route.toList := by
  rw [build, normalizeRoute_eq, String.toList_ofList]
  rfl

theorem build_method (method route : String) (key : Key) :
    asciiUpperText (trim (build method route key).method) = (build method route key).method := by
  simp only [build, asciiUpperText, trim, String.toList_ofList, trimBoth_map isBlank_asciiUpper,
    trimBoth_trimBoth, List.map_map]
  congr 2
  exact funext asciiUpper_idem

theorem build_eq_iff {method route : String} {key : Key} {k : CompositeKey} :
    build method route key = k ↔
      asciiUpperText (trim method) = k.method ∧ form route.toList = k.route.toList ∧ key = k.key := by
  rw [← toList_route method route key, String.toList_inj]
  obtain ⟨m, r, x⟩ := k
  simp only [build, mk.injEq]

-- A blank before the slashes at the end of a route stays, and nothing else keeps a key from its normal form.
theorem build_normal_iff (method route : String) (key : Key) :
    let k := build method route key
    k.route.toList.head? = some '/' ∧
    (k.route.toList.getLast? = some '/' → k.route = "/") ∧
    lower k.route = k.route ∧
    (residue route.toList = [] ↔ ¬ SplitEnd route.toList) ∧
    ((∀ c, k.route.toList.head? = some c ∨ k.route.toList.getLast? = some c → isBlank c = false) ↔
      residue route.toList = []) ∧
    (build k.method k.route k.key = k ↔ residue route.toList = []) ∧
    ∀ other : String, Relation.EqvGen Respells route.toList other.toList →
      (build method other key = k ↔ residue other.toList = residue route.toList) := by
  intro k
  have spelled : k.route.toList = form route.toList := toList_route method route key
  refine ⟨?_, fun last => ?_, ?_, ?_, ⟨fun clean => ?_, fun bare c ends => ?_⟩, ?_, fun other respelled => ?_⟩
  · rw [spelled]
    exact head?_form _
  · rw [spelled] at last
    exact String.toList_inj.1 (spelled.trans (form_eq_root_of_getLast? last))
  · rw [lower, spelled, lowerFrom_form, ← spelled, String.ofList_toList]
  · rw [← residue_ne_nil_iff, not_not]
  · by_contra filled
    obtain ⟨c, last, blank⟩ := exists_blank_getLast?_form_iff.2 filled
    rw [← spelled] at last
    exact nomatch (clean c (.inr last)).symm.trans blank
  · rw [spelled] at ends
    rcases ends with head | last
    · rw [head?_form] at head
      cases head
      exact isBlank_slash
    · by_contra blank
      exact exists_blank_getLast?_form_iff.1 ⟨c, last, by simpa using blank⟩ bare
  · rw [build_eq_iff, spelled, form_form_eq_iff]
    exact ⟨fun same => same.2.1, fun bare => ⟨build_method method route key, bare, rfl⟩⟩
  · rw [build_eq_iff, spelled, form_eq_iff (core_of_eqvGen respelled).symm]
    exact ⟨fun same => same.2.1, fun alike => ⟨rfl, alike, rfl⟩⟩

theorem orders_split :
    Relation.EqvGen Respells "/orders".toList "/orders /".toList ∧ SplitEnd "/orders /".toList ∧
      let k := build "POST" "/orders /" ⟨"k-1"⟩
      k.route.toList.getLast? = some ' ' ∧ build k.method k.route k.key ≠ k ∧
        build "POST" "/orders" ⟨"k-1"⟩ ≠ k := by
  have respelled : Relation.EqvGen Respells "/orders".toList "/orders /".toList :=
    .trans _ _ _ (.rel _ _ (.blankAfter _ ' ' (by decide))) (.rel _ _ (.slashAfter _))
  have left : residue "/orders /".toList = [' '] := by decide
  have bare : residue "/orders".toList = [] := by decide
  obtain ⟨-, -, -, split, -, rebuilt, alike⟩ := build_normal_iff "POST" "/orders /" ⟨"k-1"⟩
  have ended : SplitEnd "/orders /".toList := not_not.1 (mt split.2 (by rw [left]; decide))
  refine ⟨respelled, ended, by decide, mt rebuilt.1 ?_, mt (alike _ ?_).1 ?_⟩
  · rw [left]
    decide
  · exact .symm _ _ respelled
  · rw [left, bare]
    decide

end CompositeKey

end OncePerKey
