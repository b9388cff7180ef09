import LinePalette.Highlight.Paint
import LinePalette.Proofs.Text.Offsets
import Mathlib.Data.List.Sort

/-!
# Painted texts

A painted text is cut at every end of a stroke, so no stroke ends inside a piece: one that
covers a byte of a piece covers all of it.  What is decided once for a piece therefore holds
of its bytes one by one, and the pieces together are the text.
-/

namespace LinePalette

variable {text rest : Text} {strokes others : List Stroke} {start stop offset : Nat}
  {group : Option Nat}

/-!
# Covering
-/

def Stroke.Covers (stroke : Stroke) (offset : Nat) : Prop :=
  stroke.start ≤ offset ∧ offset < stroke.stop

def Stroke.CoversPiece (stroke : Stroke) (start stop : Nat) : Prop :=
  stroke.start ≤ start ∧ stop ≤ stroke.stop

def Stroke.Clear (stroke : Stroke) (start stop : Nat) : Prop :=
  (stroke.start ≤ start ∨ stop ≤ stroke.start) ∧ (stroke.stop ≤ start ∨ stop ≤ stroke.stop)

theorem Stroke.Clear.covers_iff {stroke : Stroke} (h : stroke.Clear start stop)
    (hstart : start ≤ offset) (hstop : offset < stop) :
    stroke.Covers offset ↔ stroke.CoversPiece start stop := by
  rcases h with ⟨hfront, hback⟩
  unfold Stroke.Covers Stroke.CoversPiece
  omega

namespace Paint

/--
The group that a byte is painted for: the highest of those whose strokes cover it.  Where
none does, it is plain.
-/
inductive PaintedFor (strokes : List Stroke) (offset : Nat) : Option Nat -> Prop
  | plain : (∀ stroke ∈ strokes, ¬stroke.Covers offset) -> PaintedFor strokes offset none
  | highest {stroke : Stroke} : stroke ∈ strokes -> stroke.Covers offset ->
      (∀ other ∈ strokes, other.Covers offset -> other.group ≤ stroke.group) ->
      PaintedFor strokes offset (some stroke.group)

theorem PaintedFor.unique {other : Option Nat} (h : PaintedFor strokes offset group)
    (hother : PaintedFor strokes offset other) : group = other := by
  cases h with
  | plain hnone =>
      cases hother with
      | plain _ => rfl
      | highest hmem hcovers _ => exact absurd hcovers (hnone _ hmem)
  | highest hmem hcovers hhighest =>
      cases hother with
      | plain hnone => exact absurd hcovers (hnone _ hmem)
      | highest hmem' hcovers' hhighest' =>
          exact congrArg some
            (Nat.le_antisymm (hhighest' _ hmem hcovers) (hhighest _ hmem' hcovers'))

/-!
# Cuts
-/

theorem mem_insertCut {cut : Nat} {list : List Nat} :
    offset ∈ insertCut cut list ↔ offset = cut ∨ offset ∈ list := by
  induction list with
  | nil => exact List.mem_cons
  | cons first rest ih =>
      rw [insertCut]
      split
      · exact List.mem_cons
      · split
        · next hsame =>
            rw [hsame, List.mem_cons, ← or_assoc, or_self]
        · rw [List.mem_cons, ih, List.mem_cons, or_left_comm]

theorem pairwise_insertCut {list : List Nat} (h : list.Pairwise (· < ·)) (cut : Nat) :
    (insertCut cut list).Pairwise (· < ·) := by
  induction list with
  | nil => exact List.pairwise_singleton _ cut
  | cons first rest ih =>
      rcases List.pairwise_cons.mp h with ⟨hfirst, hrest⟩
      rw [insertCut]
      split
      · next hbefore =>
          apply List.Pairwise.cons _ h
          intro other hother
          rcases List.mem_cons.mp hother with rfl | hother
          · exact hbefore
          · exact Nat.lt_trans hbefore (hfirst other hother)
      · split
        · exact h
        · apply List.Pairwise.cons _ (ih hrest)
          intro other hother
          rcases mem_insertCut.mp hother with rfl | hother
          · omega
          · exact hfirst other hother

theorem pairwise_foldr_insertCut {list : List Nat} (h : list.Pairwise (· < ·))
    (offsets : List Nat) : (offsets.foldr insertCut list).Pairwise (· < ·) := by
  induction offsets with
  | nil => exact h
  | cons first rest ih => exact pairwise_insertCut ih first

theorem mem_foldr_insertCut {offsets list : List Nat} :
    offset ∈ offsets.foldr insertCut list ↔ offset ∈ offsets ∨ offset ∈ list := by
  induction offsets with
  | nil => simp only [List.foldr_nil, List.not_mem_nil, false_or]
  | cons first rest ih =>
      rw [List.foldr_cons, mem_insertCut, ih, List.mem_cons, or_assoc]

theorem cuts_pairwise (size : Nat) (strokes : List Stroke) :
    (cuts size strokes).Pairwise (· < ·) :=
  pairwise_foldr_insertCut (pairwise_insertCut (List.pairwise_singleton _ 0) size) _

theorem mem_cuts_iff {size : Nat} :
    offset ∈ cuts size strokes ↔
      (∃ stroke ∈ strokes, offset = stroke.start ∨ offset = stroke.stop) ∨
        offset = size ∨ offset = 0 := by
  unfold cuts
  rw [mem_foldr_insertCut, mem_insertCut, List.mem_flatMap, List.mem_singleton]
  simp only [List.mem_cons, List.not_mem_nil, or_false]

theorem cuts_congr (h : ∀ stroke, stroke ∈ others ↔ stroke ∈ strokes) (size : Nat) :
    cuts size others = cuts size strokes := by
  apply (cuts_pairwise size others).eq_of_mem_iff (cuts_pairwise size strokes)
  intro offset
  simp only [mem_cuts_iff, h]

theorem exists_cuts_eq_cons (size : Nat) (strokes : List Stroke) :
    ∃ later, cuts size strokes = 0 :: later := by
  have hzero : 0 ∈ cuts size strokes := mem_cuts_iff.mpr (.inr (.inr rfl))
  have hordered := cuts_pairwise size strokes
  cases hcuts : cuts size strokes with
  | nil =>
      rw [hcuts] at hzero
      exact absurd hzero List.not_mem_nil
  | cons first later =>
      rw [hcuts] at hzero hordered
      rcases List.mem_cons.mp hzero with rfl | hlater
      · exact ⟨later, rfl⟩
      · exact absurd ((List.pairwise_cons.mp hordered).1 0 hlater) (Nat.not_lt_zero first)

/-!
# Owners
-/

theorem mem_owners {number : Nat} :
    number ∈ ((strokes.filter fun stroke =>
        stroke.start ≤ start && stop ≤ stroke.stop).map Stroke.group) ↔
      ∃ stroke ∈ strokes, stroke.CoversPiece start stop ∧ stroke.group = number := by
  simp only [List.mem_map, List.mem_filter, Bool.and_eq_true, decide_eq_true_iff, and_assoc,
    Stroke.CoversPiece]

theorem owner?_eq_none_iff :
    owner? strokes start stop = none ↔ ∀ stroke ∈ strokes, ¬stroke.CoversPiece start stop := by
  unfold owner?
  rw [List.max?_eq_none_iff, List.eq_nil_iff_forall_not_mem]
  simp only [mem_owners]
  constructor
  · intro hnone stroke hmem hcovers
    exact hnone stroke.group ⟨stroke, hmem, hcovers, rfl⟩
  · rintro hnone _ ⟨stroke, hmem, hcovers, _⟩
    exact hnone stroke hmem hcovers

theorem owner?_eq_some_iff {number : Nat} :
    owner? strokes start stop = some number ↔
      (∃ stroke ∈ strokes, stroke.CoversPiece start stop ∧ stroke.group = number) ∧
        ∀ stroke ∈ strokes, stroke.CoversPiece start stop -> stroke.group ≤ number := by
  unfold owner?
  rw [List.max?_eq_some_iff, mem_owners]
  apply and_congr_right'
  simp only [mem_owners]
  constructor
  · intro hhighest stroke hmem hcovers
    exact hhighest stroke.group ⟨stroke, hmem, hcovers, rfl⟩
  · rintro hhighest _ ⟨stroke, hmem, hcovers, rfl⟩
    exact hhighest stroke hmem hcovers

theorem paintedFor_owner? (hclear : ∀ stroke ∈ strokes, stroke.Clear start stop)
    (hstart : start ≤ offset) (hstop : offset < stop) :
    PaintedFor strokes offset (owner? strokes start stop) := by
  cases howner : owner? strokes start stop with
  | none =>
      apply PaintedFor.plain
      intro stroke hmem
      rw [(hclear stroke hmem).covers_iff hstart hstop]
      exact owner?_eq_none_iff.mp howner stroke hmem
  | some number =>
      rcases owner?_eq_some_iff.mp howner with ⟨⟨stroke, hmem, hcovers, rfl⟩, hhighest⟩
      apply PaintedFor.highest hmem (((hclear stroke hmem).covers_iff hstart hstop).mpr hcovers)
      intro other hother hcovers
      exact hhighest other hother (((hclear other hother).covers_iff hstart hstop).mp hcovers)

theorem owner?_congr (h : ∀ stroke, stroke ∈ others ↔ stroke ∈ strokes) (start stop : Nat) :
    owner? others start stop = owner? strokes start stop := by
  apply Option.ext
  intro number
  simp only [owner?_eq_some_iff, h]

theorem piecesBetween_congr (h : ∀ stroke, stroke ∈ others ↔ stroke ∈ strokes) (text : Text)
    (places : List Nat) :
    piecesBetween text others places = piecesBetween text strokes places := by
  induction places with
  | nil => rfl
  | cons start later ih =>
      cases later with
      | nil => rfl
      | cons stop later => rw [piecesBetween, piecesBetween, owner?_congr h, ih]

theorem pieces_congr (h : ∀ stroke, stroke ∈ others ↔ stroke ∈ strokes) (text : Text) :
    pieces text others = pieces text strokes := by
  unfold pieces
  rw [cuts_congr h, piecesBetween_congr h]

/-!
# Pieces

What one piece adds holds of the bytes it is made of; along the cuts the pieces make up
the text.
-/

/-- Pieces that make up a text, each painted as all bytes of it are. -/
inductive Paints (strokes : List Stroke) : Nat -> Text -> List PaintedPiece -> Prop
  | done {offset : Nat} : Paints strokes offset [] []
  | piece {offset : Nat} {part rest : Text} {group : Option Nat} {later : List PaintedPiece} :
      (∀ place, offset ≤ place -> place < offset + Text.byteSize part ->
        PaintedFor strokes place group) ->
      Paints strokes (offset + Text.byteSize part) rest later ->
      Paints strokes offset (part ++ rest) ({ group := group, text := part } :: later)

/-- The pieces between neighbouring cuts, if none of the cuts is inside a character. -/
def piecesBetween? (text : Text) (strokes : List Stroke) : List Nat -> Option (List PaintedPiece)
  | start :: stop :: later =>
      (Text.sliceBytes? start stop text).bind fun part =>
        (piecesBetween? text strokes (stop :: later)).map fun others =>
          { group := owner? strokes start stop, text := part } :: others
  | _ => some []

def pieces? (text : Text) (strokes : List Stroke) : Option (List PaintedPiece) :=
  piecesBetween? text strokes (cuts (Text.byteSize text) strokes)

theorem piecesBetween?_eq_some {places : List Nat} (hordered : places.Pairwise (· < ·))
    (hplaces : ∀ place ∈ places, Text.IsBoundary text place) :
    piecesBetween? text strokes places = some (piecesBetween text strokes places) := by
  induction places with
  | nil => rfl
  | cons start later ih =>
      cases later with
      | nil => rfl
      | cons stop later =>
          rcases List.pairwise_cons.mp hordered with ⟨hbehind, hordered⟩
          rcases List.forall_mem_cons.mp hplaces with ⟨hstart, hplaces⟩
          have hslice : Text.sliceBytes? start stop text =
              some (Text.sliceBytes start stop text) :=
            if_pos ⟨Nat.le_of_lt (hbehind stop List.mem_cons_self), hstart,
              hplaces stop List.mem_cons_self⟩
          rw [piecesBetween?, hslice, ih hordered hplaces]
          rfl

/-- Neighbouring cuts leave a piece that the ends of the strokes keep clear of. -/
theorem paints_piecesBetween {later : List Nat} (hordered : (start :: later).Pairwise (· < ·))
    (hplaces : ∀ place ∈ start :: later, Text.IsBoundary text place)
    (hsize : Text.byteSize text ∈ start :: later)
    (hends : ∀ stroke ∈ strokes, (stroke.start ≤ start ∨ stroke.start ∈ later) ∧
      (stroke.stop ≤ start ∨ stroke.stop ∈ later)) :
    Paints strokes start (Text.dropBytes start text)
      (piecesBetween text strokes (start :: later)) := by
  induction later generalizing start with
  | nil =>
      rw [← List.mem_singleton.mp hsize]
      have hrest := Text.dropBytes_byteSize text []
      rw [List.append_nil] at hrest
      rw [hrest]
      exact Paints.done
  | cons stop later ih =>
      rcases List.pairwise_cons.mp hordered with ⟨hbehind, hrising⟩
      rcases List.pairwise_cons.mp hrising with ⟨hfurther, _⟩
      rcases List.forall_mem_cons.mp hplaces with ⟨hstart, hfollowing⟩
      have hbefore : start < stop := hbehind stop List.mem_cons_self
      have hreach : ∀ place ∈ stop :: later, stop ≤ place := by
        intro place hplace
        rcases List.mem_cons.mp hplace with rfl | hplace
        · exact Nat.le_refl _
        · exact Nat.le_of_lt (hfurther place hplace)
      -- The strokes end at cuts only, and between neighbouring cuts there is none.
      have hclear : ∀ stroke ∈ strokes, stroke.Clear start stop := by
        intro stroke hmem
        rcases hends stroke hmem with ⟨hfront, hback⟩
        exact ⟨hfront.imp_right (hreach _), hback.imp_right (hreach _)⟩
      have hnext : ∀ place, place ≤ start ∨ place ∈ stop :: later ->
          place ≤ stop ∨ place ∈ later := by
        rintro place (hplace | hplace)
        · exact .inl (Nat.le_trans hplace (Nat.le_of_lt hbefore))
        · exact (List.mem_cons.mp hplace).imp_left Nat.le_of_eq
      -- In these three parts the middle is the piece, and the back is what is still to come.
      rcases hstart.divide (hfollowing stop List.mem_cons_self) (Nat.le_of_lt hbefore) with
        ⟨front, middle, back, rfl, rfl, rfl⟩
      have hlast : Text.byteSize (front ++ (middle ++ back)) ∈
          (Text.byteSize front + Text.byteSize middle) :: later := by
        rcases List.mem_cons.mp hsize with hfirst | hlater
        · rw [Text.byteSize_append, Text.byteSize_append] at hfirst
          omega
        · exact hlater
      have hrest := ih hrising hfollowing hlast fun stroke hmem =>
        (hends stroke hmem).imp (hnext _) (hnext _)
      rw [Text.dropBytes_append] at hrest
      rw [piecesBetween, Text.sliceBytes_append, Text.dropBytes_byteSize]
      exact Paints.piece (fun place => paintedFor_owner? hclear) hrest

section Places

variable (hplaces : ∀ stroke ∈ strokes,
  Text.IsBoundary text stroke.start ∧ Text.IsBoundary text stroke.stop)

include hplaces

theorem isBoundary_of_mem_cuts :
    ∀ place ∈ cuts (Text.byteSize text) strokes, Text.IsBoundary text place := by
  intro place hplace
  rcases mem_cuts_iff.mp hplace with ⟨stroke, hmem, rfl | rfl⟩ | rfl | rfl
  · exact (hplaces stroke hmem).1
  · exact (hplaces stroke hmem).2
  · have hwhole := Text.isBoundary_byteSize text []
    rwa [List.append_nil] at hwhole
  · exact Text.isBoundary_byteSize [] text

theorem pieces?_eq_some : pieces? text strokes = some (pieces text strokes) :=
  piecesBetween?_eq_some (cuts_pairwise _ _) (isBoundary_of_mem_cuts hplaces)

theorem paints_pieces : Paints strokes 0 text (pieces text strokes) := by
  have hordered := cuts_pairwise (Text.byteSize text) strokes
  have hboundary := isBoundary_of_mem_cuts hplaces
  have hsize : Text.byteSize text ∈ cuts (Text.byteSize text) strokes :=
    mem_cuts_iff.mpr (.inr (.inl rfl))
  have hends : ∀ stroke ∈ strokes, stroke.start ∈ cuts (Text.byteSize text) strokes ∧
      stroke.stop ∈ cuts (Text.byteSize text) strokes := fun stroke hmem =>
    ⟨mem_cuts_iff.mpr (.inl ⟨stroke, hmem, .inl rfl⟩),
      mem_cuts_iff.mpr (.inl ⟨stroke, hmem, .inr rfl⟩)⟩
  rcases exists_cuts_eq_cons (Text.byteSize text) strokes with ⟨later, hcuts⟩
  unfold pieces
  rw [hcuts] at hordered hboundary hsize hends ⊢
  have hwhole : Text.dropBytes 0 text = text := Text.dropBytes_byteSize [] text
  have hpaints := paints_piecesBetween hordered hboundary hsize fun stroke hmem =>
    (hends stroke hmem).imp (fun h => (List.mem_cons.mp h).imp_left Nat.le_of_eq)
      fun h => (List.mem_cons.mp h).imp_left Nat.le_of_eq
  rwa [hwhole] at hpaints

end Places

/-!
# Bytes
-/

def characters (pieces : List PaintedPiece) : List (Char × Option Nat) :=
  pieces.flatMap fun piece => piece.text.map fun c => (c, piece.group)

def inBytes {α : Type} (characters : List (Char × α)) : List (UInt8 × α) :=
  characters.flatMap fun character =>
    (String.utf8EncodeChar character.1).map fun byte => (byte, character.2)

theorem inBytes_append {α : Type} (front back : List (Char × α)) :
    inBytes (front ++ back) = inBytes front ++ inBytes back := List.flatMap_append

theorem inBytes_map_pair {α : Type} (text : Text) (value : α) :
    inBytes (text.map fun c => (c, value)) =
      (Utf8.encode text).map fun byte => (byte, value) := by
  unfold inBytes Utf8.encode
  rw [List.flatMap_map, List.map_flatMap]

theorem map_fst_characters (pieces : List PaintedPiece) :
    (characters pieces).map Prod.fst = pieces.flatMap PaintedPiece.text := by
  unfold characters
  rw [List.map_flatMap]
  apply List.flatMap_congr
  intro piece _
  rw [List.map_map]
  exact List.map_id _

theorem Paints.text_eq {pieces : List PaintedPiece} (h : Paints strokes offset text pieces) :
    pieces.flatMap PaintedPiece.text = text := by
  induction h with
  | done => rfl
  | piece _ _ ih => rw [List.flatMap_cons, ih]

theorem getElem?_map_pair_iff {α β : Type} {list : List α} {value other : β} {item : α}
    {index : Nat} :
    (list.map fun item => (item, value))[index]? = some (item, other) ↔
      list[index]? = some item ∧ value = other := by
  rw [List.getElem?_map, Option.map_eq_some_iff]
  constructor
  · rintro ⟨_, hitem, hpair⟩
    cases hpair
    exact ⟨hitem, rfl⟩
  · rintro ⟨hitem, rfl⟩
    exact ⟨item, hitem, rfl⟩

theorem Paints.getElem?_inBytes {pieces : List PaintedPiece} {index : Nat} {byte : UInt8}
    (h : Paints strokes offset text pieces) :
    (inBytes (characters pieces))[index]? = some (byte, group) ↔
      (Utf8.encode text)[index]? = some byte ∧ PaintedFor strokes (offset + index) group := by
  induction h generalizing index with
  | done =>
      apply iff_of_false
      · exact fun hbyte => nomatch hbyte
      · exact fun hbyte => nomatch hbyte.1
  | @piece offset part rest owner later hpiece _ ih =>
      have hbytes : inBytes (characters ({ group := owner, text := part } :: later)) =
          ((Utf8.encode part).map fun byte => (byte, owner)) ++
            inBytes (characters later) := by
        rw [characters, List.flatMap_cons, inBytes_append, inBytes_map_pair]
        rfl
      have hlength := Utf8.length_encode part
      rw [hbytes, Utf8.encode_append]
      rcases Nat.lt_or_ge index (Utf8.encode part).length with hfront | hback
      · have hpainted : PaintedFor strokes (offset + index) owner :=
          hpiece _ (Nat.le_add_right _ _) (by omega)
        rw [List.getElem?_append_left (by rwa [List.length_map]),
          List.getElem?_append_left hfront, getElem?_map_pair_iff]
        apply and_congr_right'
        constructor
        · rintro rfl
          exact hpainted
        · exact hpainted.unique
      · have hplace : offset + Text.byteSize part + (index - (Utf8.encode part).length) =
            offset + index := by omega
        rw [List.getElem?_append_right (by rwa [List.length_map]),
          List.getElem?_append_right hback, List.length_map, ih, hplace]

/-!
# On a terminal

A terminal shows the characters it gets in the look that the sequences before have set.
-/

structure Look where
  background : Option Color
  black : Bool
deriving Repr, DecidableEq

namespace Look

def plain : Look := { background := none, black := false }

def ofGroup? : Option Nat -> Look
  | none => plain
  | some group => { background := some (Color.ofGroup group), black := true }

def select (look : Look) (body : Text) : Look :=
  if body = "[48;5;11".toList then
    { look with background := some .yellow }
  else if body = "[48;2;173;216;230".toList then
    { look with background := some .blue }
  else if body = "[48;2;144;238;144".toList then
    { look with background := some .green }
  else if body = "[49".toList then
    { look with background := none }
  else if body = "[38;5;0".toList then
    { look with black := true }
  else if body = "[39".toList then
    { look with black := false }
  else
    look

theorem select_background (look : Look) (color : Color) :
    look.select ('[' :: Paint.background color) = { look with background := some color } := by
  cases color with
  | yellow => rfl
  | blue => rfl
  | green => rfl

end Look

/--
What a terminal shows, each character with its look.  Of a sequence that has begun, the part
that has come is kept until the letter that closes it.
-/
def shownFrom (look : Look) : Option Text -> Text -> List (Char × Look)
  | _, [] => []
  | none, c :: rest =>
      if c = '\x1b' then
        shownFrom look (some []) rest
      else
        (c, look) :: shownFrom look none rest
  | some body, c :: rest =>
      if c = 'm' then
        shownFrom (look.select body) none rest
      else
        shownFrom look (some (body ++ [c])) rest

def shown (text : Text) : List (Char × Look) := shownFrom Look.plain none text

variable {look : Look}

theorem shownFrom_append (h : '\x1b' ∉ text) (rest : Text) :
    shownFrom look none (text ++ rest) =
      (text.map fun c => (c, look)) ++ shownFrom look none rest := by
  induction text with
  | nil => rfl
  | cons c later ih =>
      rw [List.mem_cons, not_or] at h
      rcases h with ⟨hc, hlater⟩
      rw [List.cons_append, shownFrom, if_neg (Ne.symm hc), ih hlater]
      rfl

theorem shownFrom_body {body parameters : Text} (h : 'm' ∉ parameters) (rest : Text) :
    shownFrom look (some body) (parameters ++ 'm' :: rest) =
      shownFrom (look.select (body ++ parameters)) none rest := by
  induction parameters generalizing body with
  | nil => rw [List.nil_append, shownFrom, if_pos rfl, List.append_nil]
  | cons c later ih =>
      rw [List.mem_cons, not_or] at h
      rcases h with ⟨hc, hlater⟩
      rw [List.cons_append, shownFrom, if_neg (Ne.symm hc), ih hlater, List.append_assoc]
      rfl

theorem shownFrom_sequence {parameters : Text} (h : 'm' ∉ parameters) (rest : Text) :
    shownFrom look none (sequence parameters ++ rest) =
      shownFrom (look.select ('[' :: parameters)) none rest := by
  have hbody : shownFrom look (some ['[']) (parameters ++ 'm' :: rest) =
      shownFrom (look.select ('[' :: parameters)) none rest := shownFrom_body h rest
  unfold sequence
  rw [List.append_assoc]
  exact hbody

theorem background_not_closing (color : Color) : 'm' ∉ background color := by
  cases color with
  | yellow => decide
  | blue => decide
  | green => decide

theorem shownFrom_terminalPiece {piece : PaintedPiece} (h : '\x1b' ∉ piece.text) (rest : Text) :
    shownFrom Look.plain none (terminalPiece piece ++ rest) =
      (piece.text.map fun c => (c, Look.ofGroup? piece.group)) ++
        shownFrom Look.plain none rest := by
  unfold terminalPiece
  cases piece.group with
  | none => exact shownFrom_append h rest
  | some group =>
      simp only [List.append_assoc]
      rw [shownFrom_sequence (background_not_closing _), Look.select_background,
        shownFrom_sequence (by decide), shownFrom_append h, shownFrom_sequence (by decide),
        shownFrom_sequence (by decide)]
      rfl

theorem shown_terminalPieces {pieces : List PaintedPiece}
    (h : '\x1b' ∉ pieces.flatMap PaintedPiece.text) :
    shown (pieces.flatMap terminalPiece) =
      (characters pieces).map fun character => (character.1, Look.ofGroup? character.2) := by
  unfold shown
  induction pieces with
  | nil => rfl
  | cons piece later ih =>
      rw [List.flatMap_cons, List.mem_append, not_or] at h
      have hcharacters : characters (piece :: later) =
          (piece.text.map fun c => (c, piece.group)) ++ characters later := List.flatMap_cons
      rw [List.flatMap_cons, shownFrom_terminalPiece h.1, ih h.2, hcharacters, List.map_append,
        List.map_map]
      rfl

/--
A text painted with strokes whose ends are places where it may be cut is cut nowhere else,
and its pieces put together are the text again.  Each byte is painted for the highest group
whose stroke covers it, and plain where none does.  A terminal that gets the text without
escapes of its own shows all its characters and no others, in the looks of their groups.
Which strokes there are decides, and neither their order nor how often each is there.
-/
theorem each_byte_painted_for_highest_group
    (hplaces : ∀ stroke ∈ strokes,
      Text.IsBoundary text stroke.start ∧ Text.IsBoundary text stroke.stop) :
    let painted := pieces text strokes
    pieces? text strokes = some painted ∧
      painted.flatMap PaintedPiece.text = text ∧
      (∀ offset byte group, (inBytes (characters painted))[offset]? = some (byte, group) ↔
        (Utf8.encode text)[offset]? = some byte ∧ PaintedFor strokes offset group) ∧
      ('\x1b' ∉ text ->
        shown (terminal text strokes) =
            ((characters painted).map fun character =>
              (character.1, Look.ofGroup? character.2)) ∧
          (shown (terminal text strokes)).map Prod.fst = text) ∧
      ∀ others, (∀ stroke, stroke ∈ others ↔ stroke ∈ strokes) ->
        pieces text others = painted ∧ terminal text others = terminal text strokes := by
  intro painted
  have hpaints : Paints strokes 0 text painted := paints_pieces hplaces
  refine ⟨pieces?_eq_some hplaces, hpaints.text_eq, ?_, ?_, ?_⟩
  · intro offset byte group
    rw [hpaints.getElem?_inBytes, Nat.zero_add]
  · intro hescape
    have hshown : shown (terminal text strokes) =
        (characters painted).map fun character =>
          (character.1, Look.ofGroup? character.2) := by
      apply shown_terminalPieces
      rw [hpaints.text_eq]
      exact hescape
    refine ⟨hshown, ?_⟩
    rw [hshown, List.map_map]
    exact (map_fst_characters painted).trans hpaints.text_eq
  · intro others hsame
    have hpieces : pieces text others = painted := pieces_congr hsame text
    refine ⟨hpieces, ?_⟩
    unfold terminal
    rw [hpieces]

/-- A stroke within another, one that is turned round and one without any bytes. -/
theorem each_byte_painted_for_highest_group_within :
    let text : Text := "aßcd".toList
    let strokes : List Stroke :=
      [{ group := 2, start := 1, stop := 3 }, { group := 1, start := 0, stop := 4 },
        { group := 3, start := 4, stop := 1 }, { group := 4, start := 3, stop := 3 }]
    (∀ stroke ∈ strokes, Text.IsBoundary text stroke.start ∧ Text.IsBoundary text stroke.stop) ∧
      pieces? text strokes =
        some [{ group := some 1, text := ['a'] }, { group := some 2, text := ['ß'] },
          { group := some 1, text := ['c'] }, { group := none, text := ['d'] }] ∧
      PaintedFor strokes 2 (some 2) ∧
      PaintedFor strokes 4 none ∧
      (shown (terminal text strokes)).map Prod.fst = text ∧
      terminal text (strokes.reverse ++ strokes) = terminal text strokes := by
  intro text strokes
  have hplaces : ∀ stroke ∈ strokes,
      Text.IsBoundary text stroke.start ∧ Text.IsBoundary text stroke.stop := by decide
  rcases each_byte_painted_for_highest_group hplaces with
    ⟨hpieces, _, hbytes, hshown, hsame⟩
  refine ⟨hplaces, ?_, ?_, ?_, (hshown (by decide)).2, ?_⟩
  · rw [hpieces]
    decide
  · exact ((hbytes 2 0x9f (some 2)).mp (by decide)).2
  · exact ((hbytes 4 0x64 none).mp (by decide)).2
  · apply (hsame (strokes.reverse ++ strokes) _).2
    intro stroke
    rw [List.mem_append, List.mem_reverse, or_self]

end Paint
end LinePalette
