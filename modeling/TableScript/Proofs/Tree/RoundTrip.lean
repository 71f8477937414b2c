import TableScript.Proofs.Json.Reading
import TableScript.Tree.Reader
import TableScript.Tree.Writer

/-!
# Script trees survive being written

`Tree.readScript?` gives a script back from the document that `Tree.writeScript` writes, read again
from its text, exactly when every double of the document is read back as itself: reader and writer
agree on the name and the place of every part of every tree.

1. `GivesBack` says this of one reader and one writer; lists, pairs and parts that may be absent
   inherit it from what they are made of;
2. `ReadsBelow n` says it of all trees less deep than `n`, and holds for every `n`, each level from
   the one below it.
-/

namespace TableScript

open Json (Draft rereading Kept)

/-! ## Records -/

namespace Record

theorem keyed?_rereadMembers (members : List (String × Json)) :
    Draft.keyed? (Json.rereadMembers members) =
      some (members.map fun m => (m.1, rereading m.2)) := by
  rw [Json.rereadMembers_eq_map, Draft.keyed?]
  induction members with
  | nil => rfl
  | cons m rest ih =>
    rw [List.map_cons, List.mapM_cons, ih]
    rfl

theorem uniqueMember?_rereading {members : List (String × Json)} (h : (members.map (·.1)).Nodup)
    (name : String) :
    uniqueMember? (members.map fun m => (m.1, rereading m.2)) name =
      some ((Json.member? name members).map rereading) := by
  induction members with
  | nil => rfl
  | cons m rest ih =>
    obtain ⟨hm, hrest⟩ := List.nodup_cons.1 h
    by_cases hname : m.1 = name
    · have hnone : (rest.map fun m => (m.1, rereading m.2)).filter (·.1 = name) = [] := by
        simp only [List.filter_eq_nil_iff, List.mem_map]
        rintro _ ⟨k, hk, rfl⟩ heq
        exact hm (List.mem_map.2 ⟨k, hk, by simpa [hname] using heq⟩)
      simp [uniqueMember?, Json.member?, hname, hnone]
    · have hskip := ih hrest
      simp only [uniqueMember?, List.map_cons, List.filter_cons, hname, decide_false,
        Bool.false_eq_true, if_false, Json.member?] at hskip ⊢
      exact hskip

/-- A written record has its members for slots. -/
@[simp] theorem ofDraft?_rereading {members : List (String × Json)} (names : List String)
    (h : (members.map (·.1)).Nodup) :
    ofDraft? names (rereading (.obj members)) =
      some ⟨names.map fun name => (Json.member? name members).map rereading, false⟩ := by
  have hslots : names.mapM (uniqueMember? (members.map fun m => (m.1, rereading m.2))) =
      some (names.map fun name => (Json.member? name members).map rereading) := by
    rw [funext (uniqueMember?_rereading h)]
    exact List.mapM_pure
  rw [rereading, ofDraft?, keyed?_rereadMembers]
  change (names.mapM (uniqueMember? (members.map fun m => (m.1, rereading m.2))) >>= _) = _
  rw [hslots]
  rfl

section Fields

variable {α : Type} (slots : List (Option Draft)) (i : Nat) (read : Draft → Option α)

@[simp] theorem required_mk : required ⟨slots, false⟩ i read = slots[i]?.join.bind read := rfl

@[simp] theorem nullable_mk : nullable ⟨slots, false⟩ i read =
    slots[i]?.join.elim (some none) (Draft.nullOr? read) := by
  unfold nullable slot
  cases slots[i]?.join <;> rfl

@[simp] theorem optional_mk : optional ⟨slots, false⟩ i read =
    slots[i]?.join.elim (some none) (Draft.nullOr? read) := by
  unfold optional slot
  cases slots[i]?.join <;> rfl

@[simp] theorem defaulted_mk (default : α) : defaulted ⟨slots, false⟩ i default read =
    slots[i]?.join.elim (some default) read := by
  unfold defaulted slot
  cases slots[i]?.join <;> rfl

end Fields

end Record

@[simp] theorem Json.member?_cons (key k : String) (j : Json) (rest : List (String × Json)) :
    Json.member? key ((k, j) :: rest) = if k = key then some j else Json.member? key rest :=
  rfl

@[simp] theorem Json.member?_nil (key : String) : Json.member? key [] = none := rfl

namespace Tree

/-! ## Readers and writers -/

variable {α β : Type} {n : Nat}

/-- Reading what was written gives the thing back exactly when all of its doubles come through. -/
def GivesBack (read : Draft → Option α) (write : α → Json) (a : α) : Prop :=
  read (rereading (write a)) = some a ↔ Kept (write a)

/-- Something that holds no double is given back. -/
theorem givesBack_of {read : Draft → Option α} {write : α → Json} {a : α}
    (hread : read (rereading (write a)) = some a) (hkept : Kept (write a)) :
    GivesBack read write a :=
  iff_of_true hread hkept

/-- Something written as a name alone is given back by a reader that knows the name. -/
theorem givesBack_name {read : Draft → Option α} {write : α → Json} {a : α} {name : String}
    (hwrite : write a = .str name) (hread : read (.str name) = some a) :
    GivesBack read write a := by
  refine givesBack_of ?_ ?_
  · rw [hwrite, Json.rereading_str, hread]
  · rw [hwrite]
    exact Json.kept_str name

/-- Something as an array of what it is made of. -/
def writeList (write : α → Json) (as : List α) : Json := .arr (as.map write)

/-- Two things as an array. -/
def writePair (first : α → Json) (second : β → Json) (p : α × β) : Json :=
  .arr [first p.1, second p.2]

theorem mapM_eq_some_self_iff {read : Draft → Option α} {draft : α → Draft} {as : List α} :
    (as.map draft).mapM read = some as ↔ ∀ a ∈ as, read (draft a) = some a := by
  induction as with
  | nil => simp
  | cons a rest ih =>
    rw [List.map_cons, List.mapM_cons, List.forall_mem_cons, ← ih]
    simp [Option.bind_eq_some_iff]

@[simp] theorem rereading_variant (name : String) (j : Json) :
    rereading (variant name j) = .obj [(some name, rereading j)] := by
  rw [variant, rereading, Json.rereadMembers, Json.rereadMembers]

@[simp] theorem kept_variant {name : String} {j : Json} : Kept (variant name j) ↔ Kept j := by
  simp [variant]

theorem GivesBack.list {read : Draft → Option α} {write : α → Json} {as : List α}
    (h : ∀ a ∈ as, GivesBack read write a) :
    GivesBack (Draft.listOf? read) (writeList write) as := by
  unfold GivesBack writeList
  rw [rereading, Json.rereadItems_eq_map, Draft.listOf?, List.map_map, mapM_eq_some_self_iff]
  simp only [Function.comp, Json.kept_arr, List.forall_mem_map]
  exact forall₂_congr h

theorem GivesBack.pair {first : Draft → Option α} {second : Draft → Option β} {write : α → Json}
    {write' : β → Json} {a : α} {b : β} (ha : GivesBack first write a)
    (hb : GivesBack second write' b) :
    GivesBack (Draft.pairOf? first second) (writePair write write') (a, b) := by
  unfold GivesBack at ha hb
  simp [GivesBack, writePair, rereading, Json.rereadItems, Draft.pairOf?, Option.bind_eq_some_iff,
    ha, hb]

theorem GivesBack.orNull {read : Draft → Option α} {write : α → Json} {a : Option α}
    (hnull : ∀ b ∈ a, rereading (write b) ≠ .null) (h : ∀ b ∈ a, GivesBack read write b) :
    GivesBack (Draft.nullOr? read) (orNull write) a := by
  cases a with
  | none => exact givesBack_of rfl Json.kept_null
  | some b =>
    have hread : Draft.nullOr? read (rereading (write b)) =
        (read (rereading (write b))).map some := by
      unfold Draft.nullOr?
      split
      · exact absurd ‹_› (hnull b rfl)
      · rfl
    have hb : read (rereading (write b)) = some b ↔ Kept (write b) := h b rfl
    simp [GivesBack, Tree.orNull, hread, hb]

/-- A variant is given back if its content is. -/
theorem GivesBack.content {read : Draft → Option α} {write : α → Json} {a : α} {name : String}
    {make : α → β} {readVariant : Draft → Option β} {writeVariant : β → Json}
    (h : GivesBack read write a) (hmake : Function.Injective make)
    (hread : ∀ d, readVariant (.obj [(some name, d)]) = (read d).map make)
    (hwrite : writeVariant (make a) = variant name (write a)) :
    GivesBack readVariant writeVariant (make a) := by
  unfold GivesBack at h ⊢
  rw [hwrite, rereading_variant, hread, kept_variant, ← h]
  exact Option.map_eq_some_iff.trans
    ⟨fun ⟨b, hb, heq⟩ => hmake heq ▸ hb, fun hb => ⟨a, hb, rfl⟩⟩

/-- A record is given back if its fields are. -/
theorem GivesBack.fields {names : List String} {members : List (String × Json)}
    {make : Record → Option β} {readRecord : Draft → Option β} {writeRecord : β → Json} {b : β}
    (hread : ∀ d, readRecord d = Record.ofDraft? names d >>= make)
    (hwrite : writeRecord b = .obj members) (hnames : (members.map (·.1)).Nodup)
    (h : make ⟨names.map fun name => (Json.member? name members).map rereading, false⟩ = some b ↔
      ∀ m ∈ members, Kept m.2) :
    GivesBack readRecord writeRecord b := by
  unfold GivesBack
  rw [hwrite, hread, Record.ofDraft?_rereading names hnames, Json.kept_obj]
  exact h

/-- A variant whose content is a record is given back if the fields are. -/
theorem GivesBack.record {name : String} {names : List String} {members : List (String × Json)}
    {make : Record → Option β} {readVariant : Draft → Option β} {writeVariant : β → Json} {b : β}
    (hread : ∀ d, readVariant (.obj [(some name, d)]) = Record.ofDraft? names d >>= make)
    (hwrite : writeVariant b = variant name (.obj members)) (hnames : (members.map (·.1)).Nodup)
    (h : make ⟨names.map fun name => (Json.member? name members).map rereading, false⟩ = some b ↔
      ∀ m ∈ members, Kept m.2) :
    GivesBack readVariant writeVariant b := by
  unfold GivesBack
  rw [hwrite, rereading_variant, hread, kept_variant, Record.ofDraft?_rereading names hnames,
    Json.kept_obj]
  exact h

/-! ## Parts without parts -/

@[simp] theorem string?_str (text : String) : Draft.string? (.str text) = some text := rfl

@[simp] theorem bool?_bool (b : Bool) : Draft.bool? (.bool b) = some b := rfl

@[simp] theorem word?_toInt (w : Int64) : Draft.word? (.int w.toInt) = some w := by
  have hrange : Int64.minValue.toInt ≤ w.toInt ∧ w.toInt ≤ Int64.maxValue.toInt :=
    ⟨Int64.minValue_le_toInt w, Int64.toInt_le w⟩
  rw [Draft.word?, if_pos hrange, Int64.ofInt_toInt]

@[simp] theorem readBinaryOp?_name (op : BinaryOp) : readBinaryOp? (.str op.name) = some op := by
  cases op <;> rfl

@[simp] theorem readUnaryOp?_name (op : UnaryOp) : readUnaryOp? (.str op.name) = some op := by
  cases op <;> rfl

@[simp] theorem readShellSlot?_name (slot : ShellSlot) :
    readShellSlot? (.str slot.name) = some slot := by
  cases slot <;> rfl

theorem givesBack_string (text : String) : GivesBack Draft.string? .str text :=
  givesBack_of (by simp) (by simp)

theorem givesBack_names (names : List String) : GivesBack readNames? writeNames names :=
  GivesBack.list fun text _ => givesBack_string text

theorem givesBack_word (w : Int64) : GivesBack Draft.word? (fun w => .int w.toInt) w :=
  givesBack_of (by simp) (by simp)

theorem givesBack_double (x : Double) : GivesBack Draft.double? .float x := by
  rw [GivesBack, Json.rereading_float, Json.kept_float]

@[simp] theorem kept_writeSpan (s : Span) : Kept (writeSpan s) := by simp [writeSpan]

@[simp] theorem nullOr?_readSpan? (s : Span) :
    Draft.nullOr? readSpan? (rereading (writeSpan s)) = some (some s) := by
  have hread : readSpan? (rereading (writeSpan s)) = some s := by
    simp [readSpan?, writeSpan, Draft.nat?]
  rw [writeSpan, rereading] at hread ⊢
  rw [Draft.nullOr?, hread]
  · rfl
  · exact Draft.noConfusion

theorem givesBack_literal (l : Literal) : GivesBack readLiteral? writeLiteral l := by
  cases l with
  | int w => exact (givesBack_word w).content (fun _ _ => Literal.int.inj) (fun _ => rfl) rfl
  | float x => exact (givesBack_double x).content (fun _ _ => Literal.float.inj) (fun _ => rfl) rfl
  | str text =>
    exact (givesBack_string text).content (fun _ _ => Literal.str.inj) (fun _ => rfl) rfl
  | bool b =>
    have hb : GivesBack Draft.bool? .bool b := givesBack_of (by simp) (by simp)
    exact hb.content (fun _ _ => Literal.bool.inj) (fun _ => rfl) rfl
  | null => exact givesBack_name rfl rfl

theorem givesBack_pathStep (p : PathStep) : GivesBack readPathStep? writePathStep p := by
  cases p with
  | key name =>
    exact (givesBack_string name).content (fun _ _ => PathStep.key.inj) (fun _ => rfl) rfl
  | index i => exact (givesBack_word i).content (fun _ _ => PathStep.index.inj) (fun _ => rfl) rfl
  | wildcard => exact givesBack_name rfl rfl
  | allElements => exact givesBack_name rfl rfl

theorem givesBack_path (path : Path) :
    GivesBack (Draft.listOf? readPathStep?) (writeList writePathStep) path :=
  .list fun p _ => givesBack_pathStep p

theorem givesBack_direction (d : SortDirection) : GivesBack readDirection? writeDirection d := by
  cases d <;> exact givesBack_name rfl rfl

theorem givesBack_sortSpec (s : SortSpec) : GivesBack readSortSpec? writeSortSpec s := by
  cases s with
  | general d =>
    exact (givesBack_direction d).content (fun _ _ => SortSpec.general.inj) (fun _ => rfl) rfl
  | columns rules =>
    have hrules : GivesBack (Draft.listOf? (Draft.pairOf? Draft.string? readDirection?))
        (writeList (writePair .str writeDirection)) rules :=
      .list fun (name, d) _ => (givesBack_string name).pair (givesBack_direction d)
    exact hrules.content (fun _ _ => SortSpec.columns.inj) (fun _ => rfl) rfl

theorem givesBack_optSortSpec (s : Option SortSpec) :
    GivesBack (Draft.nullOr? readSortSpec?) (orNull writeSortSpec) s :=
  .orNull (fun s _ => by cases s <;> simp [writeSortSpec]) fun s _ => givesBack_sortSpec s

theorem givesBack_shellTargets (t : ShellTargets) :
    GivesBack readShellTargets? writeShellTargets t := by
  cases t with
  | positional names =>
    exact (givesBack_names names).content (fun _ _ => ShellTargets.positional.inj)
      (fun _ => rfl) rfl
  | named slots =>
    have hslots : GivesBack (Draft.listOf? readShellSlot?) (writeList fun s => .str s.name) slots :=
      .list fun slot _ => givesBack_of (by simp) (by simp)
    exact hslots.content (fun _ _ => ShellTargets.named.inj) (fun _ => rfl) rfl

theorem givesBack_blockKind (k : BlockKind) : GivesBack readBlockKind? writeBlockKind k := by
  cases k <;> exact givesBack_name rfl rfl

/-! ## Trees -/

/-- Everything that is written less deep than `n` is given back. -/
def ReadsBelow (n : Nat) (read : Draft → Option α) (write : α → Json) : Prop :=
  ∀ a, (write a).depth < n → GivesBack read write a

theorem ReadsBelow.list {read : Draft → Option α} {write : α → Json}
    (h : ReadsBelow n read write) : ReadsBelow n (Draft.listOf? read) (writeList write) :=
  fun _ hdepth => .list fun a ha =>
    h a (Nat.lt_trans (Json.depth_lt_depth_arr (List.mem_map_of_mem ha)) hdepth)

theorem ReadsBelow.pair {first : Draft → Option α} {second : Draft → Option β} {write : α → Json}
    {write' : β → Json} (h : ReadsBelow n first write) (h' : ReadsBelow n second write') :
    ReadsBelow n (Draft.pairOf? first second) (writePair write write') :=
  fun (a, b) hdepth =>
    (h a (Nat.lt_trans (Json.depth_lt_depth_arr (by simp)) hdepth)).pair
      (h' b (Nat.lt_trans (Json.depth_lt_depth_arr (by simp)) hdepth))

theorem ReadsBelow.orNull {read : Draft → Option α} {write : α → Json}
    (hnull : ∀ a, rereading (write a) ≠ .null) (h : ReadsBelow n read write) :
    ReadsBelow n (Draft.nullOr? read) (orNull write) :=
  fun a hdepth => .orNull (fun b _ => hnull b) fun b hb => by
    obtain rfl := Option.mem_def.1 hb
    exact h b hdepth

/-- Every tree that is written less deep than `n` is given back. -/
structure TreesBelow (n : Nat) : Prop where
  expr : ReadsBelow n (readExpr? n) writeExpr
  exprKind : ReadsBelow n (readExprKind? n) writeExprKind
  lambdaBody : ReadsBelow n (readLambdaBody? n) writeLambdaBody
  stmt : ReadsBelow n (readStmt? n) writeStmt
  stmtKind : ReadsBelow n (readStmtKind? n) writeStmtKind
  target : ReadsBelow n (readTarget? n) writeTarget
  fieldMod : ReadsBelow n (readFieldMod? n) writeFieldMod

namespace TreesBelow

variable (h : TreesBelow n)

include h

theorem exprs : ReadsBelow n (Draft.listOf? (readExpr? n)) (writeList writeExpr) := h.expr.list

theorem stmts : ReadsBelow n (Draft.listOf? (readStmt? n)) (writeList writeStmt) := h.stmt.list

theorem named : ReadsBelow n (Draft.listOf? (Draft.pairOf? Draft.string? (readExpr? n)))
    (writeList (writePair .str writeExpr)) :=
  .list (.pair (fun name _ => givesBack_string name) h.expr)

theorem optExpr : ReadsBelow n (Draft.nullOr? (readExpr? n)) (orNull writeExpr) :=
  .orNull (fun | .mk kind span => by simp [writeExpr, rereading]) h.expr

theorem optExprs :
    ReadsBelow n (Draft.nullOr? (Draft.listOf? (readExpr? n))) (orNull (writeList writeExpr)) :=
  .orNull (fun _ => by simp [writeList, rereading]) h.exprs

theorem optStmts :
    ReadsBelow n (Draft.nullOr? (Draft.listOf? (readStmt? n))) (orNull (writeList writeStmt)) :=
  .orNull (fun _ => by simp [writeList, rereading]) h.stmts

end TreesBelow

theorem depth_content {name : String} {j : Json} (hdepth : (variant name j).depth < n + 1) :
    j.depth < n := by
  simp only [variant, Json.depth, Json.depthOfMembers] at hdepth
  omega

theorem depth_field {name : String} {members : List (String × Json)} {j : Json}
    (hdepth : (variant name (.obj members)).depth < n + 1) (h : j ∈ members.map (·.2)) :
    j.depth < n :=
  Nat.lt_trans (Json.depth_lt_depth_obj h) (depth_content hdepth)

/-! ### Lists of trees -/

@[simp] theorem arr_writeExprs (es : List Expr) :
    Json.arr (writeExprs es) = writeList writeExpr es := by
  induction es with
  | nil => rfl
  | cons e rest ih => simpa [writeExprs, writeList] using ih

@[simp] theorem arr_writeEntries (entries : List (Expr × Expr)) :
    Json.arr (writeEntries entries) = writeList (writePair writeExpr writeExpr) entries := by
  induction entries with
  | nil => rfl
  | cons e rest ih => simpa [writeEntries, writeList, writePair] using ih

@[simp] theorem arr_writeNamed (named : List (String × Expr)) :
    Json.arr (writeNamed named) = writeList (writePair .str writeExpr) named := by
  induction named with
  | nil => rfl
  | cons e rest ih => simpa [writeNamed, writeList, writePair] using ih

@[simp] theorem arr_writeStmts (stmts : List Stmt) :
    Json.arr (writeStmts stmts) = writeList writeStmt stmts := by
  induction stmts with
  | nil => rfl
  | cons s rest ih => simpa [writeStmts, writeList] using ih

@[simp] theorem arr_writeBranches (branches : List (Expr × List Stmt)) :
    Json.arr (writeBranches branches) =
      writeList (writePair writeExpr (writeList writeStmt)) branches := by
  induction branches with
  | nil => rfl
  | cons b rest ih => simpa [writeBranches, writeList, writePair] using ih

@[simp] theorem arr_writeTargets (targets : List Target) :
    Json.arr (writeTargets targets) = writeList writeTarget targets := by
  induction targets with
  | nil => rfl
  | cons t rest ih => simpa [writeTargets, writeList] using ih

@[simp] theorem arr_writeMods (mods : List FieldMod) :
    Json.arr (writeMods mods) = writeList writeFieldMod mods := by
  induction mods with
  | nil => rfl
  | cons m rest ih => simpa [writeMods, writeList] using ih

@[simp] theorem writeOptExpr_eq (e : Option Expr) : writeOptExpr e = orNull writeExpr e := by
  cases e <;> simp [writeOptExpr, orNull]

@[simp] theorem writeOptExprs_eq (es : Option (List Expr)) :
    writeOptExprs es = orNull (writeList writeExpr) es := by
  cases es <;> simp [writeOptExprs, orNull]

@[simp] theorem writeOptStmts_eq (stmts : Option (List Stmt)) :
    writeOptStmts stmts = orNull (writeList writeStmt) stmts := by
  cases stmts <;> simp [writeOptStmts, orNull]

/-! ### One level -/

theorem some_and_eq_comm {o : Option α} {a : α} {b b' : β} {p : Prop} :
    o = some a ∧ b = b' ∧ p ↔ b = b' ∧ o = some a ∧ p :=
  and_left_comm

theorem GivesBack.iff {read : Draft → Option α} {write : α → Json} {a : α}
    (h : GivesBack read write a) : read (rereading (write a)) = some a ↔ Kept (write a) :=
  h

theorem readsBelow_exprKind (ih : TreesBelow n) :
    ReadsBelow (n + 1) (readExprKind? (n + 1)) writeExprKind := by
  intro k hdepth
  cases k with
  | literal l =>
    exact (givesBack_literal l).content (fun _ _ => ExprKind.literal.inj) (fun _ => rfl) rfl
  | ident name =>
    exact (givesBack_string name).content (fun _ _ => ExprKind.ident.inj) (fun _ => rfl) rfl
  | list items =>
    have hwrite : writeExprKind (.list items) = variant "list" (writeList writeExpr items) := by
      rw [writeExprKind, arr_writeExprs]
    rw [hwrite] at hdepth
    exact (ih.expr.list items (depth_content hdepth)).content (fun _ _ => ExprKind.list.inj)
      (fun _ => rfl) hwrite
  | map entries =>
    have hwrite : writeExprKind (.map entries) =
        variant "map" (writeList (writePair writeExpr writeExpr) entries) := by
      rw [writeExprKind, arr_writeEntries]
    rw [hwrite] at hdepth
    exact ((ih.expr.pair ih.expr).list entries (depth_content hdepth)).content
      (fun _ _ => ExprKind.map.inj) (fun _ => rfl) hwrite
  | binary op lhs rhs =>
    rw [writeExprKind] at hdepth
    have hlhs := ih.expr lhs (depth_field hdepth (by simp))
    have hrhs := ih.expr rhs (depth_field hdepth (by simp))
    refine .record (fun _ => rfl) (by rw [writeExprKind]) (by simp) ?_
    simp [Option.bind_eq_some_iff, some_and_eq_comm, hlhs.iff, hrhs.iff]
  | unary op operand =>
    rw [writeExprKind] at hdepth
    have hoperand := ih.expr operand (depth_field hdepth (by simp))
    refine .record (fun _ => rfl) (by rw [writeExprKind]) (by simp) ?_
    simp [Option.bind_eq_some_iff, hoperand.iff]
  | ternary cond whenTrue otherwise =>
    rw [writeExprKind] at hdepth
    have hcond := ih.expr cond (depth_field hdepth (by simp))
    have hthen := ih.expr whenTrue (depth_field hdepth (by simp))
    have helse := ih.expr otherwise (depth_field hdepth (by simp))
    refine .record (fun _ => rfl) (by rw [writeExprKind]) (by simp) ?_
    simp [Option.bind_eq_some_iff, some_and_eq_comm, hcond.iff, hthen.iff, helse.iff]
  | index target index =>
    rw [writeExprKind] at hdepth
    have htarget := ih.expr target (depth_field hdepth (by simp))
    have hindex := ih.expr index (depth_field hdepth (by simp))
    refine .record (fun _ => rfl) (by rw [writeExprKind]) (by simp) ?_
    simp [Option.bind_eq_some_iff, some_and_eq_comm, htarget.iff, hindex.iff]
  | slice target start stop =>
    rw [writeExprKind, writeOptExpr_eq, writeOptExpr_eq] at hdepth
    have htarget := ih.expr target (depth_field hdepth (by simp))
    have hstart := ih.optExpr start (depth_field hdepth (by simp))
    have hstop := ih.optExpr stop (depth_field hdepth (by simp))
    refine .record (fun _ => rfl) (by rw [writeExprKind, writeOptExpr_eq, writeOptExpr_eq])
      (by simp) ?_
    simp [Option.bind_eq_some_iff, some_and_eq_comm, htarget.iff, hstart.iff, hstop.iff]
  | call callee args named =>
    rw [writeExprKind, arr_writeExprs, arr_writeNamed] at hdepth
    have hcallee := ih.expr callee (depth_field hdepth (by simp))
    have hargs := ih.exprs args (depth_field hdepth (by simp))
    have hnamed := ih.named named (depth_field hdepth (by simp))
    refine .record (fun _ => rfl) (by rw [writeExprKind, arr_writeExprs, arr_writeNamed])
      (by simp) ?_
    simp [Option.bind_eq_some_iff, some_and_eq_comm, hcallee.iff, hargs.iff, hnamed.iff]
  | lambda params body =>
    rw [writeExprKind] at hdepth
    have hparams := givesBack_names params
    have hbody := ih.lambdaBody body (depth_field hdepth (by simp))
    refine .record (fun _ => rfl) (by rw [writeExprKind]) (by simp) ?_
    simp [Option.bind_eq_some_iff, some_and_eq_comm, hparams.iff, hbody.iff]

theorem readsBelow_lambdaBody (ih : TreesBelow n) :
    ReadsBelow (n + 1) (readLambdaBody? (n + 1)) writeLambdaBody := by
  intro body hdepth
  cases body with
  | exprs values =>
    have hwrite :
        writeLambdaBody (.exprs values) = variant "exprs" (writeList writeExpr values) := by
      rw [writeLambdaBody, arr_writeExprs]
    rw [hwrite] at hdepth
    exact (ih.exprs values (depth_content hdepth)).content (fun _ _ => LambdaBody.exprs.inj)
      (fun _ => rfl) hwrite
  | stmt body =>
    have hwrite : writeLambdaBody (.stmt body) = variant "stmt" (writeStmt body) := by
      rw [writeLambdaBody]
    rw [hwrite] at hdepth
    exact (ih.stmt body (depth_content hdepth)).content (fun _ _ => LambdaBody.stmt.inj)
      (fun _ => rfl) hwrite

theorem readsBelow_stmtKind (ih : TreesBelow n) :
    ReadsBelow (n + 1) (readStmtKind? (n + 1)) writeStmtKind := by
  intro k hdepth
  cases k with
  | breakLoop => exact givesBack_name (by rw [writeStmtKind]) rfl
  | continueLoop => exact givesBack_name (by rw [writeStmtKind]) rfl
  | unset name =>
    exact (givesBack_string name).content (fun _ _ => StmtKind.unset.inj) (fun _ => rfl) rfl
  | expr e =>
    have hwrite : writeStmtKind (.expr e) = variant "expr" (writeExpr e) := by rw [writeStmtKind]
    rw [hwrite] at hdepth
    exact (ih.expr e (depth_content hdepth)).content (fun _ _ => StmtKind.expr.inj) (fun _ => rfl)
      hwrite
  | returnValues values =>
    have hwrite : writeStmtKind (.returnValues values) =
        variant "return" (writeList writeExpr values) := by
      rw [writeStmtKind, arr_writeExprs]
    rw [hwrite] at hdepth
    exact (ih.exprs values (depth_content hdepth)).content (fun _ _ => StmtKind.returnValues.inj)
      (fun _ => rfl) hwrite
  | assign targets values =>
    rw [writeStmtKind, arr_writeTargets, arr_writeExprs] at hdepth
    have htargets := ih.target.list targets (depth_field hdepth (by simp))
    have hvalues := ih.exprs values (depth_field hdepth (by simp))
    refine .record (fun _ => rfl) (by rw [writeStmtKind, arr_writeTargets, arr_writeExprs])
      (by simp) ?_
    simp [Option.bind_eq_some_iff, some_and_eq_comm, htargets.iff, hvalues.iff]
  | compoundAssign target op value =>
    rw [writeStmtKind] at hdepth
    have htarget := ih.target target (depth_field hdepth (by simp))
    have hvalue := ih.expr value (depth_field hdepth (by simp))
    refine .record (fun _ => rfl) (by rw [writeStmtKind]) (by simp) ?_
    simp [Option.bind_eq_some_iff, some_and_eq_comm, htarget.iff, hvalue.iff]
  | step target delta =>
    rw [writeStmtKind] at hdepth
    have htarget := ih.target target (depth_field hdepth (by simp))
    refine .record (fun _ => rfl) (by rw [writeStmtKind]) (by simp) ?_
    simp [Option.bind_eq_some_iff, htarget.iff]
  | branch branches otherwise =>
    rw [writeStmtKind, arr_writeBranches, writeOptStmts_eq] at hdepth
    have hbranches := (ih.expr.pair ih.stmts).list branches (depth_field hdepth (by simp))
    have hotherwise := ih.optStmts otherwise (depth_field hdepth (by simp))
    refine .record (fun _ => rfl) (by rw [writeStmtKind, arr_writeBranches, writeOptStmts_eq])
      (by simp) ?_
    simp [Option.bind_eq_some_iff, some_and_eq_comm, hbranches.iff, hotherwise.iff]
  | whileLoop cond body =>
    rw [writeStmtKind, writeOptExpr_eq, arr_writeStmts] at hdepth
    have hcond := ih.optExpr cond (depth_field hdepth (by simp))
    have hbody := ih.stmts body (depth_field hdepth (by simp))
    refine .record (fun _ => rfl) (by rw [writeStmtKind, writeOptExpr_eq, arr_writeStmts])
      (by simp) ?_
    simp [Option.bind_eq_some_iff, some_and_eq_comm, hcond.iff, hbody.iff]
  | forLoop vars iter body =>
    rw [writeStmtKind, arr_writeStmts] at hdepth
    have hvars := givesBack_names vars
    have hiter := ih.expr iter (depth_field hdepth (by simp))
    have hbody := ih.stmts body (depth_field hdepth (by simp))
    refine .record (fun _ => rfl) (by rw [writeStmtKind, arr_writeStmts]) (by simp) ?_
    simp [Option.bind_eq_some_iff, some_and_eq_comm, hvars.iff, hiter.iff, hbody.iff]
  | fnDef name params body ret =>
    rw [writeStmtKind, arr_writeStmts, writeOptExprs_eq] at hdepth
    have hparams := givesBack_names params
    have hbody := ih.stmts body (depth_field hdepth (by simp))
    have hret := ih.optExprs ret (depth_field hdepth (by simp))
    refine .record (fun _ => rfl) (by rw [writeStmtKind, arr_writeStmts, writeOptExprs_eq])
      (by simp) ?_
    simp [Option.bind_eq_some_iff, some_and_eq_comm, hparams.iff, hbody.iff, hret.iff]
  | defer body onlyOnFailure =>
    rw [writeStmtKind, arr_writeStmts] at hdepth
    have hbody := ih.stmts body (depth_field hdepth (by simp))
    refine .record (fun _ => rfl) (by rw [writeStmtKind, arr_writeStmts]) (by simp) ?_
    simp [Option.bind_eq_some_iff, hbody.iff]
  | shell targets command quiet catchBody failBody =>
    rw [writeStmtKind, writeOptStmts_eq, writeOptStmts_eq] at hdepth
    have htargets := givesBack_shellTargets targets
    have hcommand := ih.expr command (depth_field hdepth (by simp))
    have hcatch := ih.optStmts catchBody (depth_field hdepth (by simp))
    have hfail := ih.optStmts failBody (depth_field hdepth (by simp))
    refine .record (fun _ => rfl) (by rw [writeStmtKind, writeOptStmts_eq, writeOptStmts_eq])
      (by simp) ?_
    simp [Option.bind_eq_some_iff, some_and_eq_comm, htargets.iff, hcommand.iff, hcatch.iff,
      hfail.iff]
  | fieldDecl name path =>
    have hpath := givesBack_path path
    refine .record (fun _ => rfl) (by rw [writeStmtKind, ← writeList]) (by simp) ?_
    simp [Option.bind_eq_some_iff, hpath.iff]
  | block kind source fields sort mods =>
    rw [writeStmtKind, writeOptExpr_eq, arr_writeMods] at hdepth
    have hkind := givesBack_blockKind kind
    have hsource := ih.optExpr source (depth_field hdepth (by simp))
    have hfields := givesBack_names fields
    have hsort := givesBack_optSortSpec sort
    have hmods := ih.fieldMod.list mods (depth_field hdepth (by simp))
    refine .record (fun _ => rfl) (by rw [writeStmtKind, writeOptExpr_eq, arr_writeMods])
      (by simp) ?_
    simp [Option.bind_eq_some_iff, some_and_eq_comm, hkind.iff, hsource.iff, hfields.iff, hsort.iff,
      hmods.iff]

theorem readsBelow_target (ih : TreesBelow n) :
    ReadsBelow (n + 1) (readTarget? (n + 1)) writeTarget
  | .mk name path, hdepth => by
    rw [writeTarget, arr_writeExprs] at hdepth
    have hpath := ih.exprs path (Json.depth_member hdepth (by simp))
    refine .fields (fun _ => rfl) (by rw [writeTarget, arr_writeExprs]) (by simp) ?_
    simp [Option.bind_eq_some_iff, hpath.iff]

theorem readsBelow_fieldMod (ih : TreesBelow n) :
    ReadsBelow (n + 1) (readFieldMod? (n + 1)) writeFieldMod := by
  intro mod hdepth
  cases mod with
  | map fields function =>
    rw [writeFieldMod] at hdepth
    have hfields := givesBack_names fields
    have hfunction := ih.expr function (depth_field hdepth (by simp))
    refine .record (fun _ => rfl) (by rw [writeFieldMod]) (by simp) ?_
    simp [Option.bind_eq_some_iff, some_and_eq_comm, hfields.iff, hfunction.iff]
  | colour fields colour pattern =>
    rw [writeFieldMod] at hdepth
    have hfields := givesBack_names fields
    have hcolour := ih.expr colour (depth_field hdepth (by simp))
    have hpattern := ih.expr pattern (depth_field hdepth (by simp))
    refine .record (fun _ => rfl) (by rw [writeFieldMod]) (by simp) ?_
    simp [Option.bind_eq_some_iff, some_and_eq_comm, hfields.iff, hcolour.iff, hpattern.iff]

/-- A part of a tree that has a span is given back if what it is made of is. -/
theorem GivesBack.withSpan {readKind : Draft → Option α} {writeKind : α → Json} {kind : α}
    {span : Option Span} {make : α → Option Span → β} {readNode : Draft → Option β}
    {writeNode : β → Json} (h : GivesBack readKind writeKind kind)
    (hmake : ∀ {k k' s s'}, make k s = make k' s' ↔ k = k' ∧ s = s')
    (hread : ∀ d, readNode d = do
      let r ← Record.ofDraft? ["kind", "span"] d
      some (make (← r.required 0 readKind) (← r.optional 1 readSpan?)))
    (hwrite : writeNode (make kind span) = .obj (("kind", writeKind kind) :: spanMember span)) :
    GivesBack readNode writeNode (make kind span) := by
  cases span with
  | none =>
    refine .fields hread hwrite (by simp [spanMember]) ?_
    simp [spanMember, Option.bind_eq_some_iff, hmake, h.iff]
  | some s =>
    refine .fields hread hwrite (by simp [spanMember]) ?_
    simp [spanMember, Option.bind_eq_some_iff, hmake, h.iff]

theorem readsBelow_expr (ih : TreesBelow n) : ReadsBelow (n + 1) (readExpr? (n + 1)) writeExpr
  | .mk kind span, hdepth => by
    rw [writeExpr] at hdepth
    have hkind := ih.exprKind kind (Json.depth_member hdepth (by simp))
    exact hkind.withSpan (by simp) (fun _ => rfl) (by rw [writeExpr])

theorem readsBelow_stmt (ih : TreesBelow n) : ReadsBelow (n + 1) (readStmt? (n + 1)) writeStmt
  | .mk kind span, hdepth => by
    rw [writeStmt] at hdepth
    have hkind := ih.stmtKind kind (Json.depth_member hdepth (by simp))
    exact hkind.withSpan (by simp) (fun _ => rfl) (by rw [writeStmt])

/-! ### All levels -/

/-- Every tree is given back, by induction on how deep it may be: a reader with one more level to go
finds the parts one level down. -/
theorem treesBelow : ∀ n, TreesBelow n
  | 0 => ⟨nofun, nofun, nofun, nofun, nofun, nofun, nofun⟩
  | n + 1 =>
    have ih := treesBelow n
    { expr := readsBelow_expr ih
      exprKind := readsBelow_exprKind ih
      lambdaBody := readsBelow_lambdaBody ih
      stmt := readsBelow_stmt ih
      stmtKind := readsBelow_stmtKind ih
      target := readsBelow_target ih
      fieldMod := readsBelow_fieldMod ih }

/-- A script is given back exactly when its doubles come through. -/
theorem givesBack_script (s : Script) : GivesBack readScript? writeScript s := by
  obtain ⟨source, stmts⟩ := s
  have hlevels := Json.depth_le_depth_rereading (writeScript ⟨source, stmts⟩)
  have hstmts : ∀ fuel, (writeScript ⟨source, stmts⟩).depth < fuel →
      GivesBack (Draft.listOf? (readStmt? fuel)) (writeList writeStmt) stmts := by
    intro fuel hfuel
    refine (treesBelow fuel).stmts stmts (Nat.lt_trans ?_ hfuel)
    rw [writeScript, arr_writeStmts]
    exact Json.depth_lt_depth_obj (by simp)
  unfold GivesBack readScript?
  generalize hfuel : 2 * (rereading (writeScript ⟨source, stmts⟩)).depth + 2 = fuel
  have hread := hstmts fuel (by omega)
  cases source with
  | none => simp [writeScript, Option.bind_eq_some_iff, hread.iff]
  | some text => simp [writeScript, Option.bind_eq_some_iff, hread.iff, Draft.nullOr?]

end Tree

end TableScript
