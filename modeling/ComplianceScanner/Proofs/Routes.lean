import ComplianceScanner.Probe.Route
import Mathlib.Data.List.TakeWhile

/-!
# Routes as they are written

Which paths a route stands for, and which texts are routes, is said here by rules, one for each piece of
a route. Trying a path against a route and reading a text as a route do what the rules say. A text
without braces is a route that stands for itself alone, unless a segment of it begins with a mark that
is no longer in use.
-/

namespace ComplianceScanner.Route

/-! ### The paths of a route -/

inductive Matches : Route → List Char → Prop
  | nil : Matches [] []
  | char {c : Char} {route : Route} {path : List Char} (hpath : Matches route path) :
      Matches (.char c :: route) (c :: path)
  /-- An open segment takes all characters up to the next slash. -/
  | segment {route : Route} {name path : List Char} (hne : name ≠ []) (hname : '/' ∉ name)
      (hend : ∀ c, path.head? = some c → c = '/') (hpath : Matches route path) :
      Matches (.segment :: route) (name ++ path)
  | rest {route : Route} {path : List Char} (hne : path ≠ []) : Matches (.rest :: route) path

theorem Matches.char_iff {c : Char} {route : Route} {path : List Char} :
    Matches (.char c :: route) path ↔ ∃ others, path = c :: others ∧ Matches route others := by
  constructor
  · rintro (_ | hpath)
    exact ⟨_, rfl, hpath⟩
  · rintro ⟨others, rfl, hpath⟩
    exact .char hpath

/-- A segment and what follows it, taken apart again. -/
theorem span_segment {name path : List Char} (hname : '/' ∉ name)
    (hend : ∀ c, path.head? = some c → c = '/') :
    (name ++ path).takeWhile (· ≠ '/') = name ∧ (name ++ path).dropWhile (· ≠ '/') = path := by
  have hall : ∀ c ∈ name, decide (c ≠ '/') = true := fun c hc =>
    decide_eq_true (ne_of_mem_of_not_mem hc hname)
  rw [List.takeWhile_append_of_pos hall, List.dropWhile_append_of_pos hall]
  cases path with
  | nil => simp
  | cons c path =>
      obtain rfl := hend c rfl
      simp

theorem covers_iff (route : Route) (path : List Char) :
    route.covers path = true ↔ Matches route path := by
  induction route generalizing path with
  | nil =>
      constructor
      · intro hempty
        rw [List.isEmpty_iff.mp hempty]
        exact .nil
      · rintro ⟨⟩
        rfl
  | cons piece route ih =>
      cases piece with
      | char c =>
          rw [Matches.char_iff]
          cases path with
          | nil => simp [covers]
          | cons first path =>
              rw [covers, Bool.and_eq_true, decide_eq_true_iff, ih]
              constructor
              · rintro ⟨rfl, hpath⟩
                exact ⟨path, rfl, hpath⟩
              · rintro ⟨others, heq, hpath⟩
                obtain ⟨rfl, rfl⟩ := List.cons.inj heq
                exact ⟨rfl, hpath⟩
      | segment =>
          rw [covers, Bool.and_eq_true, ih]
          constructor
          · rintro ⟨hne, hpath⟩
            rw [← List.takeWhile_append_dropWhile (p := (· ≠ '/')) (l := path)]
            refine .segment (by simpa using hne) ?_ ?_ hpath
            · intro hmem
              simpa using List.mem_takeWhile_imp hmem
            · intro c hc
              have := List.head?_dropWhile_not (· ≠ '/') path
              simp_all
          · intro hmatches
            cases hmatches with
            | segment hne hname hend hpath =>
                obtain ⟨htake, hdrop⟩ := span_segment hname hend
                rw [htake, hdrop]
                exact ⟨by simpa using hne, hpath⟩
      | rest =>
          constructor
          · intro hne
            exact .rest (by simpa [covers] using hne)
          · rintro (_ | _ | _ | hne)
            simpa [covers] using hne

/-! ### Glyphs -/

def openBrace : Glyph := ⟨'\x7b', false⟩

def closeBrace : Glyph := ⟨'\x7d', false⟩

theorem isBrace_iff {u : Glyph} {brace : Char} : isBrace u brace = true ↔ u = ⟨brace, false⟩ := by
  obtain ⟨c, plain⟩ := u
  simp [isBrace]

/-- Reading glyph by glyph ends within the text, for two characters may make one glyph. -/
theorem length_glyphs_le (text : List Char) : (glyphs text).length ≤ text.length := by
  induction text using glyphs.induct with
  | case1 text ih | case2 text ih =>
      simp only [glyphs, List.length_cons]
      omega
  | case3 c text hopen hclose ih =>
      rw [glyphs.eq_3 _ _ hopen hclose]
      simpa using ih
  | case4 => simp [glyphs]

/-- Without braces each character is a glyph. -/
theorem glyphs_of_braceless {text : List Char} (hopen : '\x7b' ∉ text) (hclose : '\x7d' ∉ text) :
    glyphs text = text.map (⟨·, true⟩) := by
  induction text with
  | nil => rfl
  | cons c text ih =>
      obtain ⟨hc, hopen⟩ := List.ne_and_not_mem_of_not_mem_cons hopen
      obtain ⟨hc', hclose⟩ := List.ne_and_not_mem_of_not_mem_cons hclose
      rw [glyphs.eq_3 c text (fun _ heq => absurd heq.symm hc) (fun _ heq => absurd heq.symm hc'),
        ih hopen hclose, List.map_cons]
      simp [hc.symm, hc'.symm]

/-! ### The texts of a route -/

/-- What may stand in the name of a placeholder from its second character on. -/
def IsInner (u : Glyph) : Prop := u ≠ closeBrace ∧ u.char ≠ '*' ∧ u.char ≠ '/'

/-- The glyphs say the route, which leaves no more than `left` segments open. A name begins with any
character but a closing brace, doubled or not. -/
inductive Spells : Nat → List Glyph → Route → Prop
  | nil {left : Nat} : Spells left [] []
  | char {left : Nat} {u : Glyph} {others : List Glyph} {route : Route} (hopen : u ≠ openBrace)
      (hclose : u ≠ closeBrace) (hothers : Spells left others route) :
      Spells left (u :: others) (.char u.char :: route)
  /-- An open segment is the whole rest of its segment. -/
  | segment {left : Nat} {first : Glyph} {name others : List Glyph} {route : Route}
      (hstar : first.char ≠ '*') (hclose : first.char ≠ '\x7d') (hname : ∀ u ∈ name, IsInner u)
      (hend : ∀ u, others.head? = some u → u.char = '/') (hothers : Spells left others route) :
      Spells (left + 1) (openBrace :: first :: (name ++ closeBrace :: others)) (.segment :: route)
  /-- A placeholder for the rest of the path has a name after its star and stands at the end. -/
  | rest {left : Nat} {first : Glyph} {name : List Glyph} (hstar : first.char = '*')
      (hname : ∀ u ∈ name, IsInner u) (hne : name ≠ []) :
      Spells left (openBrace :: first :: (name ++ [closeBrace])) [.rest]

theorem closing?_cons_of_isInner {u : Glyph} (hu : IsInner u) (others : List Glyph) :
    closing? (u :: others) =
      (closing? others).map fun (length, others) => (length + 1, others) := by
  obtain ⟨hclose, hstar, hslash⟩ := hu
  simp [closing?, isBrace_iff.not.mpr hclose, hstar, hslash]

theorem closing?_append {name : List Glyph} (hname : ∀ u ∈ name, IsInner u) (others : List Glyph) :
    closing? (name ++ closeBrace :: others) = some (name.length, others) := by
  induction name with
  | nil => simp [closing?, isBrace_iff.mpr (rfl : closeBrace = _)]
  | cons u name ih =>
      obtain ⟨hu, hname⟩ := List.forall_mem_cons.mp hname
      rw [List.cons_append, closing?_cons_of_isInner hu, ih hname]
      rfl

theorem exists_name {all others : List Glyph} {length : Nat}
    (hclosing : closing? all = some (length, others)) :
    ∃ name, name.length = length ∧ (∀ u ∈ name, IsInner u) ∧
      all = name ++ closeBrace :: others := by
  induction all generalizing length with
  | nil => cases hclosing
  | cons u all ih =>
      by_cases hclose : u = closeBrace
      · subst hclose
        rw [← List.nil_append (closeBrace :: all), closing?_append (by simp)] at hclosing
        cases hclosing
        exact ⟨[], rfl, by simp, rfl⟩
      · by_cases hu : IsInner u
        · rw [closing?_cons_of_isInner hu, Option.map_eq_some_iff] at hclosing
          obtain ⟨⟨length, others⟩, hclosing, heq⟩ := hclosing
          cases heq
          obtain ⟨name, rfl, hname, rfl⟩ := ih hclosing
          exact ⟨u :: name, rfl, List.forall_mem_cons.mpr ⟨hu, hname⟩, rfl⟩
        · have hmark : u.char = '*' ∨ u.char = '/' := by
            simpa [IsInner, hclose, or_iff_not_imp_left] using hu
          simp [closing?, isBrace_iff.not.mpr hclose, hmark] at hclosing

theorem pieces?_char {u : Glyph} (hopen : u ≠ openBrace) (hclose : u ≠ closeBrace)
    (steps left : Nat) (others : List Glyph) :
    pieces? (steps + 1) left (u :: others) =
      (pieces? steps left others).map (.char u.char :: ·) := by
  simp [pieces?, isBrace_iff.not.mpr hopen, isBrace_iff.not.mpr hclose]

/-- What follows an opening brace is a name up to the first brace that closes it. -/
theorem exists_placeholder {steps left : Nat} {others : List Glyph} {route : Route}
    (hpieces : pieces? (steps + 1) left (openBrace :: others) = some route) :
    ∃ first name rest, first.char ≠ '\x7d' ∧ (∀ u ∈ name, IsInner u) ∧
      others = first :: (name ++ closeBrace :: rest) := by
  cases others with
  | nil => cases hpieces
  | cons first others =>
      by_cases hclose : first.char = '\x7d'
      · simp [pieces?, openBrace, isBrace, hclose] at hpieces
      · cases hclosing : closing? others with
        | none => simp [pieces?, openBrace, isBrace, hclosing] at hpieces
        | some found =>
            obtain ⟨name, -, hname, rfl⟩ := exists_name hclosing
            exact ⟨first, name, _, hclose, hname, rfl⟩

theorem pieces?_segment {first : Glyph} {name : List Glyph} (hstar : first.char ≠ '*')
    (hclose : first.char ≠ '\x7d') (hname : ∀ u ∈ name, IsInner u) (steps left : Nat)
    (others : List Glyph) :
    pieces? (steps + 1) left (openBrace :: first :: (name ++ closeBrace :: others)) =
      if left = 0 ∨ ∃ u, others.head? = some u ∧ u.char ≠ '/' then none
      else (pieces? steps (left - 1) others).map (.segment :: ·) := by
  cases others <;> simp [pieces?, openBrace, isBrace, closing?_append hname, hstar, hclose]

theorem pieces?_rest {first : Glyph} {name : List Glyph} (hstar : first.char = '*')
    (hname : ∀ u ∈ name, IsInner u) (steps left : Nat) (others : List Glyph) :
    pieces? (steps + 1) left (openBrace :: first :: (name ++ closeBrace :: others)) =
      if name = [] ∨ others ≠ [] then none else some [.rest] := by
  simp [pieces?, openBrace, isBrace, closing?_append hname, hstar]

/-- What is spelled is read, if there are steps enough. -/
theorem Spells.pieces?_eq {left : Nat} {all : List Glyph} {route : Route}
    (hspells : Spells left all route) {steps : Nat} (hsteps : all.length ≤ steps) :
    pieces? (steps + 1) left all = some route := by
  induction hspells generalizing steps with
  | nil => rfl
  | char hopen hclose _ ih =>
      obtain ⟨steps, rfl⟩ := Nat.exists_eq_add_one.mpr (Nat.zero_lt_of_lt hsteps)
      rw [pieces?_char hopen hclose, ih (Nat.le_of_succ_le_succ hsteps)]
      rfl
  | segment hstar hclose hname hend _ ih =>
      obtain ⟨steps, rfl⟩ := Nat.exists_eq_add_one.mpr (Nat.zero_lt_of_lt hsteps)
      simp only [List.length_cons, List.length_append] at hsteps
      rw [pieces?_segment hstar hclose hname, if_neg (by simpa using hend), Nat.add_sub_cancel,
        ih (by omega)]
      rfl
  | rest hstar hname hne => rw [pieces?_rest hstar hname, if_neg (by simpa using hne)]

theorem spells_of_pieces? {steps left : Nat} {all : List Glyph} {route : Route}
    (hpieces : pieces? steps left all = some route) : Spells left all route := by
  induction steps generalizing left all route with
  | zero => cases hpieces
  | succ steps ih =>
      cases all with
      | nil =>
          cases hpieces
          exact .nil
      | cons u all =>
          by_cases hopen : u = openBrace
          · subst hopen
            obtain ⟨first, name, others, hclose, hname, rfl⟩ := exists_placeholder hpieces
            by_cases hstar : first.char = '*'
            · rw [pieces?_rest hstar hname, Option.ite_none_left_eq_some, not_or, not_not] at hpieces
              obtain ⟨⟨hne, rfl⟩, hroute⟩ := hpieces
              cases hroute
              exact .rest hstar hname hne
            · rw [pieces?_segment hstar hclose hname, Option.ite_none_left_eq_some, not_or,
                Option.map_eq_some_iff] at hpieces
              obtain ⟨⟨hleft, hend⟩, route, hpieces, rfl⟩ := hpieces
              obtain ⟨left, rfl⟩ := Nat.exists_eq_add_one_of_ne_zero hleft
              exact .segment hstar hclose hname (by simpa using hend) (ih hpieces)
          · by_cases hclose : u = closeBrace
            · subst hclose
              cases hpieces
            · rw [pieces?_char hopen hclose, Option.map_eq_some_iff] at hpieces
              obtain ⟨route, hpieces, rfl⟩ := hpieces
              exact .char hopen hclose (ih hpieces)

/-! ### The text of a route -/

/-- No segment of the text begins with a mark that is no longer in use. -/
def NoOldMark (text : List Char) : Prop :=
  ∀ before after c, text = before ++ '/' :: c :: after → c ≠ ':' ∧ c ≠ '*'

theorem noOldMark_cons_iff {c : Char} {text : List Char} :
    NoOldMark (c :: text) ↔
      (c = '/' → ∀ first, text.head? = some first → first ≠ ':' ∧ first ≠ '*') ∧ NoOldMark text := by
  constructor
  · intro hno
    constructor
    · rintro rfl first hfirst
      obtain ⟨after, rfl⟩ := List.head?_eq_some_iff.mp hfirst
      exact hno [] after first rfl
    · intro before after first htext
      exact hno (c :: before) after first (by rw [htext, List.cons_append])
  · rintro ⟨hhead, hno⟩ (_ | ⟨d, before⟩) after first htext
    · obtain ⟨rfl, rfl⟩ := List.cons.inj htext
      exact hhead rfl first rfl
    · exact hno before after first (List.cons.inj htext).2

theorem hasOldMark_eq_false_iff {text : List Char} : hasOldMark text = false ↔ NoOldMark text := by
  induction text using hasOldMark.induct with
  | case1 text | case2 text => simp [hasOldMark, noOldMark_cons_iff]
  | case3 c text hcolon hstar ih =>
      rw [hasOldMark.eq_3 c text hcolon hstar, ih, noOldMark_cons_iff]
      refine (and_iff_right ?_).symm
      rintro rfl first hfirst
      obtain ⟨after, rfl⟩ := List.head?_eq_some_iff.mp hfirst
      constructor
      · rintro rfl
        exact hcolon after rfl rfl
      · rintro rfl
        exact hstar after rfl rfl
  | case4 => simp [hasOldMark, NoOldMark]

/-- The text is a way to write the route. -/
def Writes (text : List Char) (route : Route) : Prop :=
  NoOldMark text ∧ Spells placeholderLimit (glyphs text) route

theorem ofText?_eq_some_iff {text : List Char} {route : Route} :
    ofText? text = some route ↔ Writes text route := by
  unfold ofText? Writes
  rw [← hasOldMark_eq_false_iff]
  cases hasOldMark text with
  | true => simp
  | false =>
      simp only [Bool.false_eq_true, if_false, true_and]
      constructor
      · exact spells_of_pieces?
      · intro hspells
        exact hspells.pieces?_eq (length_glyphs_le text)

theorem Writes.unique {text : List Char} {x y : Route} (hx : Writes text x) (hy : Writes text y) :
    x = y :=
  Option.some.inj ((ofText?_eq_some_iff.mpr hx).symm.trans (ofText?_eq_some_iff.mpr hy))

/-! ### Texts without braces -/

theorem spells_map_iff {left : Nat} {text : List Char} {route : Route} :
    Spells left (text.map (⟨·, true⟩)) route ↔ route = text.map .char := by
  induction text generalizing route with
  | nil =>
      constructor
      · rintro ⟨⟩
        rfl
      · rintro rfl
        exact .nil
  | cons c text ih =>
      constructor
      · intro hspells
        cases hspells with
        | char _ _ hothers => rw [ih.mp hothers, List.map_cons]
      · rintro rfl
        exact .char (by simp [openBrace]) (by simp [closeBrace]) (ih.mpr rfl)

theorem matches_map_iff {text path : List Char} : Matches (text.map .char) path ↔ path = text := by
  induction text generalizing path with
  | nil =>
      constructor
      · rintro ⟨⟩
        rfl
      · rintro rfl
        exact .nil
  | cons c text ih => simp [Matches.char_iff, ih]

theorem writes_iff {text : List Char} (hopen : '\x7b' ∉ text) (hclose : '\x7d' ∉ text)
    {route : Route} : Writes text route ↔ NoOldMark text ∧ route = text.map .char := by
  rw [Writes, glyphs_of_braceless hopen hclose, spells_map_iff]

end ComplianceScanner.Route
