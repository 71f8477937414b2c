import TableScript.Json.Parser
import TableScript.Json.Printer
import TableScript.Tree.Record

/-!
# What a written document reads as

A document survives being written and read again but for its doubles, each of which becomes whatever
its own text reads as. `rereading` is the draft that comes out; `Kept` says of a document that all
of its doubles come through. Both are told part by part, so that a reader can be followed along the
document it reads.
-/

namespace TableScript.Json

mutual

/-- The parts of a document that have no parts. -/
def leaves : Json → List Json
  | .arr items => leavesOfItems items
  | .obj members => leavesOfMembers members
  | j => [j]

/-- The leaves of the items of an array. -/
def leavesOfItems : List Json → List Json
  | [] => []
  | j :: rest => leaves j ++ leavesOfItems rest

/-- The leaves of the members of an object. -/
def leavesOfMembers : List (String × Json) → List Json
  | [] => []
  | (_, j) :: rest => leaves j ++ leavesOfMembers rest

end

mutual

/-- How deep a document is nested. -/
def depth : Json → Nat
  | .arr items => depthOfItems items + 1
  | .obj members => depthOfMembers members + 1
  | _ => 0

/-- The greatest depth among items. -/
def depthOfItems : List Json → Nat
  | [] => 0
  | j :: rest => max (depth j) (depthOfItems rest)

/-- The greatest depth among members. -/
def depthOfMembers : List (String × Json) → Nat
  | [] => 0
  | (_, j) :: rest => max (depth j) (depthOfMembers rest)

end

/-- What the text of a double reads as. -/
def reread (x : Double) : Draft := (Draft.parse? (compact (.float x))).getD .unreadable

mutual

/-- What the text of a document reads as. -/
def rereading : Json → Draft
  | .null => .null
  | .bool b => .bool b
  | .int n => .int n
  | .float x => reread x
  | .str s => .str s
  | .arr items => .arr (rereadItems items)
  | .obj members => .obj (rereadMembers members)

/-- What the items of an array read as. -/
def rereadItems : List Json → List Draft
  | [] => []
  | j :: rest => rereading j :: rereadItems rest

/-- What the members of an object read as. -/
def rereadMembers : List (String × Json) → List (Option String × Draft)
  | [] => []
  | (key, j) :: rest => (some key, rereading j) :: rereadMembers rest

end

/-- Every double of the document is read back as itself. -/
def Kept (j : Json) : Prop := ∀ x, .float x ∈ j.leaves → (reread x).double? = some x

@[simp] theorem rereading_null : rereading .null = .null := by rw [rereading]

@[simp] theorem rereading_bool (b : Bool) : rereading (.bool b) = .bool b := by rw [rereading]

@[simp] theorem rereading_int (n : Int) : rereading (.int n) = .int n := by rw [rereading]

@[simp] theorem rereading_float (x : Double) : rereading (.float x) = reread x := by rw [rereading]

@[simp] theorem rereading_str (s : String) : rereading (.str s) = .str s := by rw [rereading]

theorem rereadItems_eq_map (items : List Json) : rereadItems items = items.map rereading := by
  induction items with
  | nil => rfl
  | cons j rest ih => simp [rereadItems, ih]

theorem rereadMembers_eq_map (members : List (String × Json)) :
    rereadMembers members = members.map fun m => (some m.1, rereading m.2) := by
  induction members with
  | nil => rfl
  | cons m rest ih => simp [rereadMembers, ih]

/-! ## Leaves -/

theorem leavesOfItems_eq_flatMap (items : List Json) :
    leavesOfItems items = items.flatMap leaves := by
  induction items with
  | nil => rfl
  | cons j rest ih => simp [leavesOfItems, ih]

theorem leavesOfMembers_eq_flatMap (members : List (String × Json)) :
    leavesOfMembers members = members.flatMap fun m => m.2.leaves := by
  induction members with
  | nil => rfl
  | cons m rest ih => simp [leavesOfMembers, ih]

@[simp] theorem kept_null : Kept .null := by simp [Kept, leaves]

@[simp] theorem kept_bool (b : Bool) : Kept (.bool b) := by simp [Kept, leaves]

@[simp] theorem kept_int (n : Int) : Kept (.int n) := by simp [Kept, leaves]

@[simp] theorem kept_str (s : String) : Kept (.str s) := by simp [Kept, leaves]

@[simp] theorem kept_float {x : Double} : Kept (.float x) ↔ (reread x).double? = some x := by
  simp [Kept, leaves]

@[simp] theorem kept_arr {items : List Json} : Kept (.arr items) ↔ ∀ j ∈ items, Kept j := by
  simp only [Kept, leaves, leavesOfItems_eq_flatMap, List.mem_flatMap]
  exact ⟨fun h j hj x hx => h x ⟨j, hj, hx⟩, fun h x ⟨j, hj, hx⟩ => h j hj x hx⟩

@[simp] theorem kept_obj {members : List (String × Json)} :
    Kept (.obj members) ↔ ∀ m ∈ members, Kept m.2 := by
  simp only [Kept, leaves, leavesOfMembers_eq_flatMap, List.mem_flatMap]
  exact ⟨fun h m hm x hx => h x ⟨m, hm, hx⟩, fun h x ⟨m, hm, hx⟩ => h m hm x hx⟩

/-! ## Depth -/

theorem depth_le_depthOfItems {items : List Json} {j : Json} (h : j ∈ items) :
    j.depth ≤ depthOfItems items := by
  induction items with
  | nil => simp at h
  | cons k rest ih =>
    obtain rfl | hrest := List.mem_cons.1 h
    · exact Nat.le_max_left _ _
    · exact Nat.le_trans (ih hrest) (Nat.le_max_right _ _)

theorem depth_lt_depth_arr {items : List Json} {j : Json} (h : j ∈ items) :
    j.depth < (Json.arr items).depth :=
  Nat.lt_succ_of_le (depth_le_depthOfItems h)

theorem depth_le_depthOfMembers {members : List (String × Json)} {j : Json}
    (h : j ∈ members.map (·.2)) : j.depth ≤ depthOfMembers members := by
  induction members with
  | nil => simp at h
  | cons m rest ih =>
    obtain rfl | hrest := List.mem_cons.1 h
    · exact Nat.le_max_left _ _
    · exact Nat.le_trans (ih hrest) (Nat.le_max_right _ _)

theorem depth_lt_depth_obj {members : List (String × Json)} {j : Json}
    (h : j ∈ members.map (·.2)) : j.depth < (Json.obj members).depth :=
  Nat.lt_succ_of_le (depth_le_depthOfMembers h)

theorem depth_member {members : List (String × Json)} {j : Json} {n : Nat}
    (hdepth : (Json.obj members).depth < n + 1) (h : j ∈ members.map (·.2)) : j.depth < n :=
  Nat.lt_of_lt_of_le (depth_lt_depth_obj h) (Nat.le_of_lt_succ hdepth)

mutual

/-- Reading again loses no level. -/
theorem depth_le_depth_rereading : ∀ j : Json, j.depth ≤ (rereading j).depth
  | .arr items => Nat.succ_le_succ (depthOfItems_le_depthItems items)
  | .obj members => Nat.succ_le_succ (depthOfMembers_le_depthMembers members)
  | .null | .bool _ | .int _ | .float _ | .str _ => Nat.zero_le _

theorem depthOfItems_le_depthItems :
    ∀ items : List Json, depthOfItems items ≤ Draft.depth.depthItems (rereadItems items)
  | [] => Nat.zero_le _
  | j :: rest => by
    have hj := depth_le_depth_rereading j
    have hrest := depthOfItems_le_depthItems rest
    simp only [depthOfItems, rereadItems, Draft.depth.depthItems]
    omega

theorem depthOfMembers_le_depthMembers :
    ∀ members : List (String × Json),
      depthOfMembers members ≤ Draft.depth.depthMembers (rereadMembers members)
  | [] => Nat.zero_le _
  | (_, j) :: rest => by
    have hj := depth_le_depth_rereading j
    have hrest := depthOfMembers_le_depthMembers rest
    simp only [depthOfMembers, rereadMembers, Draft.depth.depthMembers]
    omega

end

end TableScript.Json
