import ComplianceScanner.Proofs.Templates
import Mathlib.Data.List.TakeWhile

/-!
# References to images

A reference to an image is a path of components, perhaps with a tag and a digest. What tells them apart
is where the colons and slashes stand: a colon begins the tag only in the last component, and in an
earlier one it belongs to the registry. Every image reads as such a reference, so what is said here of
references is said of all images.
-/

namespace ComplianceScanner

namespace Image

theorem lastComponent_of_notMem {text : List Char} (htext : '/' ∉ text) :
    lastComponent text = text := by
  have hall : ∀ c ∈ text.reverse, decide (c ≠ '/') = true := fun c hc =>
    decide_eq_true (ne_of_mem_of_not_mem (List.mem_reverse.mp hc) htext)
  rw [lastComponent, List.takeWhile_eq_self_iff.mpr hall, List.reverse_reverse]

theorem lastComponent_append (before after : List Char) :
    lastComponent (before ++ '/' :: after) = lastComponent after := by
  have hreverse : (before ++ '/' :: after).reverse = after.reverse ++ '/' :: before.reverse := by
    simp
  rw [lastComponent, lastComponent, hreverse, List.takeWhile_append]
  split
  · rename_i hlength
    have heq := (List.takeWhile_prefix _).eq_of_length hlength
    rw [List.takeWhile_cons_of_neg (by simp), List.append_nil, heq]
  · rfl

/-- What follows the path belongs to its last component. -/
theorem lastComponent_intercalate (components : List (List Char)) (hne : components ≠ [])
    (after : List Char) :
    lastComponent (['/'].intercalate components ++ after) =
      lastComponent (components.getLast hne ++ after) := by
  induction components with
  | nil => exact absurd rfl hne
  | cons first others ih =>
      cases others with
      | nil => simp
      | cons second others =>
          have hsplit : ['/'].intercalate (first :: second :: others) ++ after =
              first ++ '/' :: (['/'].intercalate (second :: others) ++ after) := by
            simp
          rw [hsplit, lastComponent_append, ih (by simp), List.getLast_cons_cons]

theorem notMem_intercalate {c : Char} (hc : c ≠ '/') {components : List (List Char)}
    (hcomponents : ∀ component ∈ components, c ∉ component) :
    c ∉ ['/'].intercalate components := by
  induction components with
  | nil => simp
  | cons first others ih =>
      cases others with
      | nil => simpa using hcomponents
      | cons second others =>
          have hfirst := hcomponents first (by simp)
          have hothers := ih fun component hmem => hcomponents component (List.mem_cons_of_mem _ hmem)
          rw [List.intercalate_cons_cons, List.mem_append, List.mem_append, List.mem_singleton]
          exact not_or.mpr ⟨not_or.mpr ⟨hfirst, hc⟩, hothers⟩

theorem tag?_of_notMem {name : List Char} (hname : ':' ∉ name) : tag? name = none := by
  have hall : ∀ c ∈ name, decide (c ≠ ':') = true := fun c hc =>
    decide_eq_true (ne_of_mem_of_not_mem hc hname)
  rw [tag?, List.dropWhile_eq_nil_iff.mpr hall]

theorem tag?_append {name : List Char} (hname : ':' ∉ name) (tag : List Char) :
    tag? (name ++ ':' :: tag) = some tag := by
  have hall : ∀ c ∈ name, decide (c ≠ ':') = true := fun c hc =>
    decide_eq_true (ne_of_mem_of_not_mem hc hname)
  rw [tag?, List.dropWhile_append_of_pos hall, List.dropWhile_cons_of_neg (by simp)]

end Image

/-- A reference as it is put together. A component other than the last may have colons, such as the one
before the port of a registry; so may the tag, and the digest is any text. -/
structure ImageReference where
  components : List String
  tag? : Option String
  digest? : Option String
  ne_nil : components ≠ []
  component_plain : ∀ component ∈ components, '/' ∉ component.toList ∧ '@' ∉ component.toList
  name_plain : ':' ∉ (components.getLast ne_nil).toList
  tag_plain : ∀ tag, tag? = some tag → '/' ∉ tag.toList ∧ '@' ∉ tag.toList

namespace ImageReference

def path (reference : ImageReference) : String := "/".intercalate reference.components

def tagText (reference : ImageReference) : String := (reference.tag?.map (":" ++ ·)).getD ""

def digestText (reference : ImageReference) : String := (reference.digest?.map ("@" ++ ·)).getD ""

def text (reference : ImageReference) : String :=
  reference.path ++ reference.tagText ++ reference.digestText

/-- There is nothing that holds on to one version of the image. -/
def IsFloating (reference : ImageReference) : Prop :=
  reference.digest? = none ∧ (reference.tag? = none ∨ reference.tag? = some "latest")

variable (reference : ImageReference)

theorem toList_path :
    reference.path.toList = ['/'].intercalate (reference.components.map String.toList) := by
  rw [path, String.toList_intercalate]
  rfl

theorem notMem_tagText {c : Char} (hc : c ≠ ':')
    (htag : ∀ tag, reference.tag? = some tag → c ∉ tag.toList) : c ∉ reference.tagText.toList := by
  cases htext : reference.tag? with
  | none => simp [tagText, htext]
  | some tag => simpa [tagText, htext, hc] using htag tag htext

theorem digest_notMem : '@' ∉ (reference.path ++ reference.tagText).toList := by
  rw [String.toList_append, List.mem_append, not_or, toList_path]
  constructor
  · apply Image.notMem_intercalate (by decide)
    intro component hmem
    obtain ⟨listed, hlisted, rfl⟩ := List.mem_map.mp hmem
    exact (reference.component_plain listed hlisted).2
  · exact reference.notMem_tagText (by decide) fun tag htag => (reference.tag_plain tag htag).2

theorem lastComponent_text (hdigest : reference.digest? = none) :
    Image.lastComponent reference.text.toList =
      (reference.components.getLast reference.ne_nil).toList ++ reference.tagText.toList := by
  have hlast := (reference.component_plain _ (List.getLast_mem reference.ne_nil)).1
  have htag : '/' ∉ reference.tagText.toList :=
    reference.notMem_tagText (by decide) fun tag htag => (reference.tag_plain tag htag).1
  have htext : reference.text.toList =
      ['/'].intercalate (reference.components.map String.toList) ++ reference.tagText.toList := by
    simp [text, digestText, hdigest, toList_path]
  rw [htext, Image.lastComponent_intercalate _ (by simpa using reference.ne_nil), List.getLast_map,
    Image.lastComponent_of_notMem]
  rw [List.mem_append, not_or]
  exact ⟨hlast, htag⟩

theorem toList_tagText {tag : String} (htag : reference.tag? = some tag) :
    reference.tagText.toList = ':' :: tag.toList := by
  simp [tagText, htag]

theorem isFloating_text : Image.isFloating reference.text = true ↔ reference.IsFloating := by
  unfold Image.isFloating IsFloating
  cases hdigest : reference.digest? with
  | some digest =>
      have hmem : '@' ∈ reference.text.toList := by simp [text, digestText, hdigest]
      simp [hmem]
  | none =>
      have hcontains : ¬ reference.text.toList.contains '@' = true := by
        simpa [text, digestText, hdigest] using reference.digest_notMem
      rw [if_neg hcontains, reference.lastComponent_text hdigest, and_iff_right rfl]
      cases htag : reference.tag? with
      | none =>
          have huntagged : reference.tagText.toList = [] := by simp [tagText, htag]
          rw [huntagged, List.append_nil, Image.tag?_of_notMem reference.name_plain]
          exact iff_of_true rfl (.inl rfl)
      | some tag =>
          rw [reference.toList_tagText htag, Image.tag?_append reference.name_plain,
            or_iff_right (Option.some_ne_none tag), Option.some_inj, ← String.toList_inj]
          exact decide_eq_true_iff

/-! ### Every image is a reference -/

/-- The same image, with one component more before its path. -/
def under (first : String) (hplain : '/' ∉ first.toList ∧ '@' ∉ first.toList) : ImageReference :=
  { reference with
    components := first :: reference.components
    ne_nil := List.cons_ne_nil _ _
    component_plain := List.forall_mem_cons.mpr ⟨hplain, reference.component_plain⟩
    name_plain := by
      rw [List.getLast_cons reference.ne_nil]
      exact reference.name_plain }

theorem text_under (first : String) (hplain : '/' ∉ first.toList ∧ '@' ∉ first.toList) :
    (reference.under first hplain).text = first ++ "/" ++ reference.text := by
  have hpath : (reference.under first hplain).path = first ++ "/" ++ reference.path :=
    String.intercalate_cons_of_ne_nil reference.ne_nil
  have htag : (reference.under first hplain).tagText = reference.tagText := rfl
  have hdigest : (reference.under first hplain).digestText = reference.digestText := rfl
  simp only [text, hpath, htag, hdigest, String.append_assoc]

def ofName (name : String) (tag? : Option String)
    (hname : '/' ∉ name.toList ∧ '@' ∉ name.toList ∧ ':' ∉ name.toList)
    (htag : ∀ tag, tag? = some tag → '/' ∉ tag.toList ∧ '@' ∉ tag.toList) : ImageReference where
  components := [name]
  tag? := tag?
  digest? := none
  ne_nil := by simp
  component_plain := by simpa using ⟨hname.1, hname.2.1⟩
  name_plain := hname.2.2
  tag_plain := htag

/-- Slashes are taken one after the other, and a colon counts once there is none left. -/
theorem exists_undigested (image : List Char) (himage : '@' ∉ image) :
    ∃ reference : ImageReference, reference.digest? = none ∧ reference.text.toList = image := by
  induction hlength : image.length using Nat.strong_induction_on generalizing image with
  | _ length ih =>
    by_cases hslash : '/' ∈ image
    · obtain ⟨first, rest, rfl, hfirst⟩ := List.eq_append_cons_of_mem hslash
      simp only [List.mem_append, List.mem_cons, not_or] at himage
      obtain ⟨reference, hnone, hrest⟩ := ih rest.length (by simp at hlength; omega) rest
        himage.2.2 rfl
      refine ⟨reference.under (.ofList first) (by simp [hfirst, himage.1]), hnone, ?_⟩
      simp [text_under, hrest]
    · by_cases hcolon : ':' ∈ image
      · obtain ⟨name, tag, rfl, hname⟩ := List.eq_append_cons_of_mem hcolon
        simp only [List.mem_append, List.mem_cons, not_or] at himage hslash
        refine ⟨ofName (.ofList name) (some (.ofList tag))
          (by simp [hname, himage.1, hslash.1]) (by simp [himage.2.2, hslash.2.2]), rfl, ?_⟩
        simp [text, path, tagText, digestText, ofName]
      · refine ⟨ofName (.ofList image) none (by simp [himage, hslash, hcolon]) (by simp), rfl, ?_⟩
        simp [text, path, tagText, digestText, ofName]

theorem exists_text_eq (image : String) : ∃ reference : ImageReference, reference.text = image := by
  by_cases hdigest : '@' ∈ image.toList
  · obtain ⟨before, digest, hsplit, hbefore⟩ := List.eq_append_cons_of_mem hdigest
    obtain ⟨reference, hnone, htext⟩ := exists_undigested before hbefore
    refine ⟨{ reference with digest? := some (.ofList digest) }, ?_⟩
    have hundigested : reference.text = reference.path ++ reference.tagText := by
      simp [text, digestText, hnone]
    rw [← String.toList_inj, hsplit, ← htext, hundigested]
    simp [text, digestText, path, tagText]
  · obtain ⟨reference, -, htext⟩ := exists_undigested image.toList hdigest
    exact ⟨reference, String.toList_inj.mp htext⟩

end ImageReference

namespace Check

open PodTemplate

/-- Every image reads as a reference, and a container with the image fails iff the reference has no
digest and no tag but `latest`. -/
theorem latestTag_judged (image : String) :
    (∃ reference : ImageReference, reference.text = image) ∧
    ∀ reference : ImageReference, reference.text = image →
      ∀ kind data rest container, container.get? "image" = some (.str image) →
        RunsOnly kind data rest [container] →
        latestTag.evaluate kind data =
          if reference.digest? = none ∧ (reference.tag? = none ∨ reference.tag? = some "latest") then
            some (reason "uses a floating image tag" container)
          else none := by
  refine ⟨ImageReference.exists_text_eq image, ?_⟩
  rintro reference rfl kind data rest container himage hruns
  refine (firstContainer_singleton hruns).trans ?_
  rw [himage, Option.bind_some, Json.str?, Option.getD_some]
  exact if_congr reference.isFloating_text rfl rfl

end Check

namespace Sample

/-- The image `nginx` of a registry with a port. -/
def nginx (tag? : Option String) (htag : ∀ tag, tag? = some tag → '/' ∉ tag.toList ∧ '@' ∉ tag.toList) :
    ImageReference where
  components := ["registry:5000", "nginx"]
  tag? := tag?
  digest? := none
  ne_nil := by simp
  component_plain := by decide +kernel
  name_plain := by decide +kernel
  tag_plain := htag

/-- The port is not taken for a tag, and a tag behind it is seen. -/
theorem latestTag_judged_registry :
    let untagged := nginx none (by simp)
    let tagged := nginx (some "1.25") (by simp)
    let container (image : String) : Json := .obj [("image", .str image)]
    let judge (image : String) := Check.latestTag.evaluate "Pod" (podOf [] [container image])
    untagged.text = "registry:5000/nginx" ∧ tagged.text = "registry:5000/nginx:1.25" ∧
      (∀ image, (container image).get? "image" = some (.str image)) ∧
      (∀ image, PodTemplate.RunsOnly "Pod" (podOf [] [container image]) (.obj [unprivileged])
        [container image]) ∧
      judge "registry:5000/nginx" = some "container \"<unnamed>\" uses a floating image tag" ∧
      judge "registry:5000/nginx:1.25" = none := by
  intro untagged tagged container judge
  have himage (image : String) : (container image).get? "image" = some (.str image) := rfl
  have hruns (image : String) : PodTemplate.RunsOnly "Pod" (podOf [] [container image])
      (.obj [unprivileged]) [container image] := .inr (runs_podOf _ _)
  have huntagged : untagged.text = "registry:5000/nginx" := by decide +kernel
  have htagged : tagged.text = "registry:5000/nginx:1.25" := by decide +kernel
  have hfails := (Check.latestTag_judged "registry:5000/nginx").2 untagged huntagged _ _ _ _
    (himage _) (hruns _)
  have hpasses := (Check.latestTag_judged "registry:5000/nginx:1.25").2 tagged htagged _ _ _ _
    (himage _) (hruns _)
  refine ⟨huntagged, htagged, himage, hruns, ?_, ?_⟩
  · rw [if_pos ⟨rfl, .inl rfl⟩] at hfails
    exact hfails
  · rw [if_neg (by decide)] at hpasses
    exact hpasses

end Sample

end ComplianceScanner
