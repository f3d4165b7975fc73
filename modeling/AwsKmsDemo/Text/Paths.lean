import Mathlib.Data.List.Induction
import AwsKmsDemo.Text.Pieces

/-!
# Walking along a path

A path is a list of components, of which some lead up, some stay, and all others lead down. Where a
path leads depends on the place where it begins. Whether it ever leaves that place upwards, and
whether it ends strictly below it, is a matter of counting its components.
-/

namespace Text

section Walks

variable {α : Type} (up stay : α → Bool)

/-- Follow one component: one that leads up removes the last component of a place. -/
def enter (place : List α) (component : α) : List α :=
  if up component then place.dropLast
  else if stay component then place
  else place ++ [component]

/-- Follow a path from a place. -/
def walk (place : List α) (path : List α) : List α := path.foldl (enter up stay) place

/-- The number of components that lead up. -/
def ups (path : List α) : ℕ := path.countP up

/-- The number of components that lead down. -/
def downs (path : List α) : ℕ := path.countP fun component => !up component && !stay component

/-- A path keeps below a place: unless there is nothing above the place, no first part of the path
leads up more often than down, and some last part leads down more often than up. -/
def KeepsBelow (place path : List α) : Prop :=
  (place ≠ [] → ∀ first, first <+: path → ups up first ≤ downs up stay first) ∧
    ∃ last, last <:+ path ∧ ups up last < downs up stay last

variable {up stay} {place path : List α} {component : α}

/-- The last component of a path is followed at the end. -/
theorem walk_concat : walk up stay place (path ++ [component]) =
    enter up stay (walk up stay place path) component := by
  rw [walk, List.foldl_append]
  rfl

/-- A path in two parts is followed part by part. -/
theorem walk_append {path' : List α} : walk up stay place (path ++ path') =
    walk up stay (walk up stay place path) path' :=
  List.foldl_append

/-- What a component does to a place, and to the numbers of components. -/
theorem enter_cases (up stay : α → Bool) (place path : List α) (component : α) :
    (enter up stay place component = place.dropLast ∧
      ups up (path ++ [component]) = ups up path + 1 ∧
      downs up stay (path ++ [component]) = downs up stay path) ∨
    (enter up stay place component = place ∧
      ups up (path ++ [component]) = ups up path ∧
      downs up stay (path ++ [component]) = downs up stay path) ∨
    (enter up stay place component = place ++ [component] ∧
      ups up (path ++ [component]) = ups up path ∧
      downs up stay (path ++ [component]) = downs up stay path + 1) := by
  unfold enter ups downs
  cases hup : up component
  · cases hstay : stay component
    · exact .inr (.inr ⟨by simp, by simp [hup], by simp [hup, hstay]⟩)
    · exact .inr (.inl ⟨by simp, by simp [hup], by simp [hup, hstay]⟩)
  · exact .inl ⟨by simp, by simp [hup], by simp [hup]⟩

/-- A path that never leads up more often than down only adds to a place. -/
theorem walk_of_balanced (place : List α)
    (h : ∀ first, first <+: path → ups up first ≤ downs up stay first) :
    ∃ more, walk up stay place path = place ++ more ∧
      more.length + ups up path = downs up stay path := by
  induction path using List.reverseRecOn with
  | nil => exact ⟨[], (List.append_nil _).symm, rfl⟩
  | append_singleton path component ih =>
    obtain ⟨more, hwalk, hlength⟩ := ih fun first hfirst =>
      h first (hfirst.trans (List.prefix_append _ _))
    have hall := h _ List.prefix_rfl
    rw [walk_concat, hwalk]
    rcases enter_cases up stay (place ++ more) path component with
      ⟨henter, hups, hdowns⟩ | ⟨henter, hups, hdowns⟩ | ⟨henter, hups, hdowns⟩
    · -- Something was added before, or the path would now have led up more often than down.
      rw [hups, hdowns] at hall
      have hmore : more ≠ [] := by
        rintro rfl
        rw [List.length_nil] at hlength
        omega
      refine ⟨more.dropLast, by rw [henter, List.dropLast_append_of_ne_nil hmore], ?_⟩
      have hpos : 0 < more.length := List.length_pos_iff.mpr hmore
      rw [List.length_dropLast, hups, hdowns]
      omega
    · exact ⟨more, henter, by rw [hups, hdowns, hlength]⟩
    · refine ⟨more ++ [component], by rw [henter, List.append_assoc], ?_⟩
      rw [List.length_append, List.length_singleton, hups, hdowns]
      omega

/-- A path that never leaves a place upwards never leads up more often than down. -/
theorem balanced_of_prefix (hplace : place ≠ [])
    (h : ∀ first, first <+: path → place <+: walk up stay place first) :
    ∀ first, first <+: path → ups up first ≤ downs up stay first := by
  induction path using List.reverseRecOn with
  | nil =>
    intro first hfirst
    rw [List.prefix_nil.mp hfirst]
    exact Nat.le_refl 0
  | append_singleton path component ih =>
    have hbefore := ih fun first hfirst => h first (hfirst.trans (List.prefix_append _ _))
    intro first hfirst
    rcases List.prefix_concat_iff.mp hfirst with rfl | hfirst
    · obtain ⟨more, hwalk, hlength⟩ := walk_of_balanced place hbefore
      have hlast := (h _ List.prefix_rfl).length_le
      have hpos : 0 < place.length := List.length_pos_iff.mpr hplace
      rw [walk_concat, hwalk] at hlast
      rcases enter_cases up stay (place ++ more) path component with
        ⟨henter, hups, hdowns⟩ | ⟨henter, hups, hdowns⟩ | ⟨henter, hups, hdowns⟩
      · rw [henter, List.length_dropLast, List.length_append] at hlast
        omega
      · omega
      · omega
    · exact hbefore first hfirst

/-- What a path leaves of a place is at least what any last part of it adds. -/
theorem downs_le_of_suffix (up stay : α → Bool) (place : List α) : ∀ last, last <:+ path →
    downs up stay last ≤ ups up last + (walk up stay place path).length := by
  induction path using List.reverseRecOn with
  | nil =>
    intro last hlast
    rw [List.suffix_nil.mp hlast]
    exact Nat.zero_le _
  | append_singleton path component ih =>
    intro last hlast
    rcases List.suffix_concat_iff.mp hlast with rfl | ⟨last', rfl, hlast'⟩
    · exact Nat.zero_le _
    · have hbefore := ih last' hlast'
      rw [walk_concat]
      rcases enter_cases up stay (walk up stay place path) last' component with
        ⟨henter, hups, hdowns⟩ | ⟨henter, hups, hdowns⟩ | ⟨henter, hups, hdowns⟩
      · rw [henter, hups, hdowns, List.length_dropLast]
        omega
      · rw [henter, hups, hdowns]
        exact hbefore
      · rw [henter, hups, hdowns, List.length_append, List.length_singleton]
        omega

/-- From the top, a path leads as far down as one of its last parts. -/
theorem exists_suffix_of_walk_nil (up stay : α → Bool) (path : List α) : ∃ last, last <:+ path ∧
    downs up stay last = ups up last + (walk up stay [] path).length := by
  induction path using List.reverseRecOn with
  | nil => exact ⟨[], List.suffix_rfl, rfl⟩
  | append_singleton path component ih =>
    obtain ⟨last, ⟨first, rfl⟩, hcount⟩ := ih
    have hsuffix : last ++ [component] <:+ first ++ last ++ [component] :=
      ⟨first, (List.append_assoc _ _ _).symm⟩
    rw [walk_concat]
    rcases enter_cases up stay (walk up stay [] (first ++ last)) last component with
      ⟨henter, hups, hdowns⟩ | ⟨henter, hups, hdowns⟩ | ⟨henter, hups, hdowns⟩
    · rw [henter, List.length_dropLast]
      by_cases htop : (walk up stay [] (first ++ last)).length = 0
      · exact ⟨[], List.nil_suffix, by rw [htop]; rfl⟩
      · exact ⟨_, hsuffix, by omega⟩
    · exact ⟨_, hsuffix, by rw [henter, hups, hdowns, hcount]⟩
    · refine ⟨_, hsuffix, ?_⟩
      rw [henter, hups, hdowns, List.length_append, List.length_singleton]
      omega

/-- A path never leaves a place upwards, and ends strictly below it, exactly when it keeps below the
place. -/
theorem keepsBelow_iff : KeepsBelow up stay place path ↔
    (∀ first, first <+: path → place <+: walk up stay place first) ∧
      walk up stay place path ≠ place := by
  by_cases hplace : place = []
  · subst hplace
    have hfirst : ∀ first, first <+: path → [] <+: walk up stay [] first :=
      fun _ _ => List.nil_prefix
    have hnil : ([] : List α) ≠ [] → ∀ first, first <+: path → ups up first ≤ downs up stay first :=
      fun hne => absurd rfl hne
    refine (and_iff_right hnil).trans (Iff.trans ?_ (and_iff_right hfirst).symm)
    constructor
    · rintro ⟨last, hlast, hcount⟩ hwalk
      have hle := downs_le_of_suffix up stay [] last hlast
      rw [hwalk, List.length_nil] at hle
      omega
    · intro hwalk
      obtain ⟨last, hlast, hcount⟩ := exists_suffix_of_walk_nil up stay path
      have hpos : 0 < (walk up stay [] path).length := List.length_pos_iff.mpr hwalk
      exact ⟨last, hlast, by omega⟩
  · constructor
    · rintro ⟨hbalanced, last, ⟨first, rfl⟩, hcount⟩
      refine ⟨fun first' hfirst' => ?_, fun hwalk => ?_⟩
      · obtain ⟨more, hwalk, _⟩ := walk_of_balanced place fun first hfirst =>
          hbalanced hplace first (hfirst.trans hfirst')
        rw [hwalk]
        exact List.prefix_append _ _
      · obtain ⟨more, hmore, hlength⟩ := walk_of_balanced place (hbalanced hplace)
        have hfirst := hbalanced hplace first (List.prefix_append _ _)
        rw [hmore, List.append_right_eq_self] at hwalk
        rw [hwalk, List.length_nil, ups, downs, List.countP_append, List.countP_append] at hlength
        unfold ups downs at hfirst hcount
        omega
    · rintro ⟨hfirst, hwalk⟩
      have hbalanced := balanced_of_prefix hplace hfirst
      refine ⟨fun _ => hbalanced, path, List.suffix_rfl, ?_⟩
      obtain ⟨more, hmore, hlength⟩ := walk_of_balanced place hbalanced
      have hne : more ≠ [] := by
        rintro rfl
        rw [List.append_nil] at hmore
        exact hwalk hmore
      have hpos : 0 < more.length := List.length_pos_iff.mpr hne
      omega

end Walks

end Text
