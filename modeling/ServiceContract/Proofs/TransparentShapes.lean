import ServiceContract.Shape

/-!
# Transparent shapes

A transparent shape stands for the shape it wraps.  A shape around it should then not show whether
one of its parts is wrapped.

A `Shape.Frame` is one level of a composite shape around a place for another shape, and frames
inside frames reach every place of a shape.  Except in one case, the data type of a frame is a
function of the data type of what is put into it (`Frame.dataType_fill`), so that a wrapper changes
nothing.  The case is the element of a sequence: whether this is a byte is asked of its shape and
not of its data type.

`wrapper_invisible_iff` says exactly when a wrapper is seen: if it stands around the byte of a
sequence, and no level above hides it.
-/

namespace ServiceContract

namespace Shape

/-- A transparent shape around another, up to the shape it wraps. -/
structure Wrapper where
  id : String
  form : Form
  kind : Kind
  params : List Shape

/-- The transparent shape around a shape. -/
def Wrapper.wrap (w : Wrapper) (shape : Shape) : Shape :=
  .composite w.id true (some shape) w.form w.kind w.params

/-- A place for a shape in the form of a composite shape. -/
inductive Hole
  | listElement
  | sliceElement
  | arrayElement (length : Nat)
  | optionInner
  | mapKey (value : Shape)
  | mapValue (key : Shape)
  | setElement
  | pointee
  | success (other : Shape)
  | failure (other : Shape)

/-- The form with a shape at the place. -/
def Hole.fill (shape : Shape) : Hole → Form
  | listElement => .list shape
  | sliceElement => .slice shape
  | arrayElement length => .array shape length
  | optionInner => .option shape
  | mapKey value => .map shape value
  | mapValue key => .map key shape
  | setElement => .set shape
  | pointee => .pointer (some shape)
  | success other => .result shape other
  | failure other => .result other shape

/-- A composite shape with a place for another shape: for what it wraps, in its form, among its
fields, or among its parameters. -/
inductive Frame
  | wrapped (id : String) (transparent : Bool) (form : Form) (kind : Kind) (params : List Shape)
  | part (id : String) (transparent : Bool) (inner : Option Shape) (hole : Hole) (kind : Kind)
      (params : List Shape)
  | field (id : String) (transparent : Bool) (inner : Option Shape) (form : Form)
      (front back : List Shape) (params : List Shape)
  | param (id : String) (transparent : Bool) (inner : Option Shape) (form : Form) (kind : Kind)
      (front back : List Shape)

/-- The composite shape with a shape at the place. -/
def Frame.fill (shape : Shape) : Frame → Shape
  | wrapped id transparent form kind params =>
    .composite id transparent (some shape) form kind params
  | part id transparent inner hole kind params =>
    .composite id transparent inner (hole.fill shape) kind params
  | field id transparent inner form front back params =>
    .composite id transparent inner form (.tuple (front ++ shape :: back)) params
  | param id transparent inner form kind front back =>
    .composite id transparent inner form kind (front ++ shape :: back)

/-- A shape inside frames, of which the first is the innermost. -/
def plug : List Frame → Shape → Shape
  | [], shape => shape
  | frame :: rest, shape => plug rest (frame.fill shape)

/-! ## Data types of composite shapes -/

/-- A transparent shape has the data type of what it wraps, and any other one its own. -/
def resolve (transparent : Bool) (inner : Option Shape) (own : DataType) : DataType :=
  match transparent, inner with
  | true, some wrapped => wrapped.dataType
  | _, _ => own

/-- The data type of a composite is that of its form, or else that of its kind. -/
theorem dataType_composite (id : String) (transparent : Bool) (inner : Option Shape) (form : Form)
    (kind : Kind) (params : List Shape) :
    (Shape.composite id transparent inner form kind params).dataType =
      resolve transparent inner
        ((form.dataType id).getD (kind.dataType id (dataTypes params))) := by
  cases transparent <;> cases inner <;> simp [dataType, resolve]

/-- The data types of shapes, one by one. -/
theorem dataTypes_eq_map (shapes : List Shape) : dataTypes shapes = shapes.map dataType := by
  induction shapes with
  | nil => simp [dataTypes]
  | cons shape rest ih => simp [dataTypes, ih]

/-! ## The data type of a place

What is put at a place reaches the data type of the whole through its own data type only.  The
element of a sequence is the exception, and only if it is a byte. -/

/-- Is the place that of an element of a sequence? -/
def Hole.isElement : Hole → Bool
  | listElement => true
  | sliceElement => true
  | _ => false

/-- The data type of a form, by the data type of what is at the place. -/
def Hole.derive (id : String) (type : DataType) : Hole → DataType
  | listElement => .list type
  | sliceElement => .list type
  | arrayElement length => .array type length
  | optionInner => .option type
  | mapKey value => .map type value.dataType
  | mapValue key => .map key.dataType type
  | setElement => .set type
  | pointee => type
  | success _ => .unsupported id
  | failure _ => .unsupported id

/-- What is at a place reaches the form through its data type only. -/
theorem Hole.dataType_fill (hole : Hole) {shape : Shape} (id : String)
    (h : hole.isElement = true → shape ≠ .scalar .u8) :
    (hole.fill shape).dataType id = some (hole.derive id shape.dataType) := by
  cases hole with
  | listElement =>
      rw [Hole.fill, Form.dataType, derive]
      exact h rfl
  | sliceElement =>
      rw [Hole.fill, Form.dataType, derive]
      exact h rfl
  | _ => simp [Hole.fill, derive, Form.dataType]

/-- A sequence is a list of its elements. -/
theorem Hole.derive_of_isElement {hole : Hole} {id : String} {type : DataType}
    (h : hole.isElement = true) : hole.derive id type = .list type := by
  cases hole with
  | listElement => rfl
  | sliceElement => rfl
  | _ => cases h

/-- A sequence of bytes. -/
theorem Hole.dataType_fill_byte {hole : Hole} (id : String) (h : hole.isElement = true) :
    (hole.fill (.scalar .u8)).dataType id = some (.primitive .bytes) := by
  cases hole with
  | listElement => simp [Hole.fill, Form.dataType]
  | sliceElement => simp [Hole.fill, Form.dataType]
  | _ => cases h

namespace Frame

/-- Is the place that of an element of a sequence? -/
def isElement : Frame → Bool
  | part _ _ _ hole _ _ => hole.isElement
  | _ => false

/-- The data type of a composite shape, by the data type of what is at the place. -/
def derive (type : DataType) : Frame → DataType
  | wrapped id transparent form kind params =>
    if transparent then type else (form.dataType id).getD (kind.dataType id (dataTypes params))
  | part id transparent inner hole _ _ => resolve transparent inner (hole.derive id type)
  | field id transparent inner form front back _ =>
    resolve transparent inner
      ((form.dataType id).getD (.tuple (dataTypes front ++ type :: dataTypes back)))
  | param id transparent inner form kind front back =>
    resolve transparent inner
      ((form.dataType id).getD (kind.dataType id (dataTypes front ++ type :: dataTypes back)))

/-- **Data types compose.**  Unless a byte is made the element of a sequence, the data type of the
whole is a function of the data type of what is at the place. -/
theorem dataType_fill (frame : Frame) {shape : Shape}
    (h : frame.isElement = true → shape ≠ .scalar .u8) :
    (frame.fill shape).dataType = frame.derive shape.dataType := by
  cases frame with
  | wrapped id transparent form kind params =>
      cases transparent <;> simp [fill, derive, dataType_composite, resolve]
  | part id transparent inner hole kind params =>
      rw [fill, dataType_composite, hole.dataType_fill id h, Option.getD_some, derive]
  | field id transparent inner form front back params =>
      simp [fill, derive, dataType_composite, Kind.dataType, dataTypes_eq_map]
  | param id transparent inner form kind front back =>
      simp [fill, derive, dataType_composite, dataTypes_eq_map]

/-- What is inside a frame is no single value. -/
theorem fill_ne_byte (frame : Frame) (shape : Shape) : frame.fill shape ≠ .scalar .u8 := by
  cases frame <;> exact fun h => nomatch h

end Frame

/-- **Data types compose at any depth.**  Neither of two shapes of one data type is a byte, so they
can stand for each other anywhere. -/
theorem dataType_plug_congr (frames : List Frame) {a b : Shape} (ha : a ≠ .scalar .u8)
    (hb : b ≠ .scalar .u8) (h : a.dataType = b.dataType) :
    (plug frames a).dataType = (plug frames b).dataType := by
  induction frames generalizing a b with
  | nil => exact h
  | cons frame rest ih =>
      refine ih (frame.fill_ne_byte a) (frame.fill_ne_byte b) ?_
      rw [frame.dataType_fill fun _ => ha, frame.dataType_fill fun _ => hb, h]

/-! ## What is seen from outside

A frame may hide what is at its place.  One that does not can be told from its text, also where the
data type only names a part in the description of something unsupported. -/

/-- Does the data type of a type of this sort depend on one of its parameters, which may be the
first? -/
def showsParam (first : Bool) : Kind → Bool
  | .record => true
  | .tupleRecord => true
  | .unitRecord => true
  | .enumeration => true
  | .reference => first
  | .address => first
  | .function => first
  | _ => false

/-- Only a result hides its parts. -/
def Hole.shows : Hole → Bool
  | success _ => false
  | failure _ => false
  | _ => true

/-- A sequence shows its element. -/
theorem Hole.shows_of_isElement {hole : Hole} (h : hole.isElement = true) : hole.shows = true := by
  cases hole with
  | listElement => rfl
  | sliceElement => rfl
  | _ => cases h

/-- Does the data type of the whole depend on what is at the place? -/
def Frame.shows : Frame → Bool
  | wrapped _ transparent _ _ _ => transparent
  | part _ transparent inner hole _ _ => !(transparent && inner.isSome) && hole.shows
  | field id transparent inner form _ _ _ =>
    !(transparent && inner.isSome) && (form.dataType id).isNone
  | param id transparent inner form kind front _ =>
    !(transparent && inner.isSome) && (form.dataType id).isNone &&
      showsParam front.isEmpty kind

/-- A shape that is not transparent has its own data type. -/
theorem resolve_of_not_transparent {transparent : Bool} {inner : Option Shape}
    (h : (!(transparent && inner.isSome)) = true) (own : DataType) :
    resolve transparent inner own = own := by
  cases transparent <;> cases inner <;> simp_all [resolve]

/-- One that is transparent does not depend on it. -/
theorem resolve_of_transparent {transparent : Bool} {inner : Option Shape}
    (h : (!(transparent && inner.isSome)) = false) (own other : DataType) :
    resolve transparent inner own = resolve transparent inner other := by
  cases transparent <;> cases inner <;> simp_all [resolve]

/-- Two lists of texts that differ in one place read differently. -/
theorem intercalate_middle_inj {separator a b : String} {front back : List String}
    (h : separator.intercalate (front ++ a :: back) = separator.intercalate (front ++ b :: back)) :
    a = b := by
  induction front with
  | nil =>
      cases back with
      | nil => simpa using h
      | cons next back => simpa [String.intercalate_cons_cons] using h
  | cons first front ih =>
      refine ih ?_
      cases front with
      | nil => simpa [String.intercalate_cons_cons] using h
      | cons second front => simpa [String.intercalate_cons_cons] using h

/-- Parameters of a type that shows them can be told from its text. -/
theorem text_dataType_kind_inj {kind : Kind} {id : String} {front back : List DataType}
    {a b : DataType} (hshows : showsParam front.isEmpty kind = true)
    (h : (kind.dataType id (front ++ a :: back)).text =
      (kind.dataType id (front ++ b :: back)).text) : a.text = b.text := by
  have hnominal : (nominalType id (front ++ a :: back)).text =
      (nominalType id (front ++ b :: back)).text → a.text = b.text := by
    intro h
    have hparams : ", ".intercalate (front.map DataType.text ++ a.text :: back.map DataType.text) =
        ", ".intercalate (front.map DataType.text ++ b.text :: back.map DataType.text) := by
      simpa [nominalType, DataType.text] using h
    exact intercalate_middle_inj hparams
  have hfirst : front.isEmpty = true → ((front ++ a :: back).headD (.unsupported id)).text =
      ((front ++ b :: back).headD (.unsupported id)).text → a.text = b.text := by
    intro hempty h
    rw [List.isEmpty_iff.1 hempty] at h
    simpa using h
  cases kind with
  | record => exact hnominal (by simpa [Kind.dataType] using h)
  | tupleRecord => exact hnominal (by simpa [Kind.dataType] using h)
  | unitRecord => exact hnominal (by simpa [Kind.dataType] using h)
  | enumeration => exact hnominal (by simpa [Kind.dataType] using h)
  | reference => exact hfirst hshows (by simpa only [Kind.dataType] using h)
  | address => exact hfirst hshows (by simpa only [Kind.dataType] using h)
  | function => exact hfirst hshows (by simpa only [Kind.dataType] using h)
  | _ => cases hshows

/-- Parameters of any other type do not matter. -/
theorem dataType_kind_of_not_showsParam {kind : Kind} {id : String} {front back : List DataType}
    {a b : DataType} (hshows : showsParam front.isEmpty kind = false) :
    kind.dataType id (front ++ a :: back) = kind.dataType id (front ++ b :: back) := by
  have hfirst : front.isEmpty = false → (front ++ a :: back).headD (.unsupported id) =
      (front ++ b :: back).headD (.unsupported id) := by
    cases front with
    | nil => exact fun h => nomatch h
    | cons first front => exact fun _ => rfl
  cases kind with
  | record => cases hshows
  | tupleRecord => cases hshows
  | unitRecord => cases hshows
  | enumeration => cases hshows
  | reference => simpa only [Kind.dataType] using hfirst hshows
  | address => simpa only [Kind.dataType] using hfirst hshows
  | function => simpa only [Kind.dataType] using hfirst hshows
  | _ => simp [Kind.dataType]

namespace Frame

/-- A frame that shows its place has different texts for different texts at the place. -/
theorem text_derive_inj {frame : Frame} {a b : DataType} (hshows : frame.shows = true)
    (h : (frame.derive a).text = (frame.derive b).text) : a.text = b.text := by
  cases frame with
  | wrapped id transparent form kind params =>
      change transparent = true at hshows
      simpa [derive, hshows] using h
  | part id transparent inner hole kind params =>
      rw [shows, Bool.and_eq_true] at hshows
      simp only [derive, resolve_of_not_transparent hshows.1] at h
      cases hole <;> simp_all [Hole.derive, Hole.shows, DataType.text]
  | field id transparent inner form front back params =>
      rw [shows, Bool.and_eq_true, Option.isNone_iff_eq_none] at hshows
      simp only [derive, resolve_of_not_transparent hshows.1, hshows.2, Option.getD_none,
        DataType.text, DataType.texts_eq_map, List.map_append, List.map_cons] at h
      exact intercalate_middle_inj (by simpa using h)
  | param id transparent inner form kind front back =>
      rw [shows, Bool.and_eq_true, Bool.and_eq_true, Option.isNone_iff_eq_none] at hshows
      obtain ⟨⟨hopen, hform⟩, hkind⟩ := hshows
      simp only [derive, resolve_of_not_transparent hopen, hform, Option.getD_none] at h
      exact text_dataType_kind_inj (by simpa [dataTypes_eq_map] using hkind) h

/-- A frame that hides its place has one data type. -/
theorem derive_of_not_shows {frame : Frame} (hshows : frame.shows = false) (a b : DataType) :
    frame.derive a = frame.derive b := by
  cases frame with
  | wrapped id transparent form kind params =>
      change transparent = false at hshows
      simp [derive, hshows]
  | part id transparent inner hole kind params =>
      rw [shows, Bool.and_eq_false_iff] at hshows
      rcases hshows with hinner | hhole
      · exact resolve_of_transparent hinner _ _
      · cases hole <;> simp_all [derive, Hole.derive, Hole.shows]
  | field id transparent inner form front back params =>
      rw [shows, Bool.and_eq_false_iff] at hshows
      rcases hshows with hinner | hform
      · exact resolve_of_transparent hinner _ _
      · obtain ⟨type, htype⟩ := Option.isSome_iff_exists.1 (Option.isNone_eq_false_iff.1 hform)
        simp [derive, htype]
  | param id transparent inner form kind front back =>
      rw [shows, Bool.and_eq_false_iff, Bool.and_eq_false_iff] at hshows
      rcases hshows with (hinner | hform) | hkind
      · exact resolve_of_transparent hinner _ _
      · obtain ⟨type, htype⟩ := Option.isSome_iff_exists.1 (Option.isNone_eq_false_iff.1 hform)
        simp [derive, htype]
      · simp only [derive]
        rw [dataType_kind_of_not_showsParam (by simpa [dataTypes_eq_map] using hkind)]

/-- A sequence whose elements are seen is a list, unless they are bytes. -/
theorem dataType_fill_eq_list {frame : Frame} (helement : frame.isElement = true)
    (hshows : frame.shows = true) {shape : Shape} (h : shape ≠ .scalar .u8) :
    (frame.fill shape).dataType = .list shape.dataType := by
  cases frame with
  | part id transparent inner hole kind params =>
      rw [shows, Bool.and_eq_true] at hshows
      rw [dataType_fill _ fun _ => h, derive, resolve_of_not_transparent hshows.1,
        Hole.derive_of_isElement helement]
  | _ => cases helement

/-- A sequence whose elements are seen is `bytes` exactly if they are bytes themselves. -/
theorem dataType_fill_eq_bytes_iff {frame : Frame} (helement : frame.isElement = true)
    (hshows : frame.shows = true) (shape : Shape) :
    (frame.fill shape).dataType = .primitive .bytes ↔ shape = .scalar .u8 := by
  by_cases hbyte : shape = .scalar .u8
  · refine iff_of_true ?_ hbyte
    cases frame with
    | part id transparent inner hole kind params =>
        rw [shows, Bool.and_eq_true] at hshows
        rw [hbyte, fill, dataType_composite, resolve_of_not_transparent hshows.1,
          Hole.dataType_fill_byte id helement, Option.getD_some]
    | _ => cases helement
  · refine iff_of_false ?_ hbyte
    rw [dataType_fill_eq_list helement hshows hbyte]
    exact fun h => nomatch h

/-- A frame that hides its place does not even tell a byte. -/
theorem dataType_fill_of_not_shows {frame : Frame} (hshows : frame.shows = false) (a b : Shape) :
    (frame.fill a).dataType = (frame.fill b).dataType := by
  by_cases helement : frame.isElement = true
  · cases frame with
    | part id transparent inner hole kind params =>
        rw [shows, Hole.shows_of_isElement helement, Bool.and_true] at hshows
        rw [fill, fill, dataType_composite, dataType_composite]
        exact resolve_of_transparent hshows _ _
    | _ => cases helement
  · rw [frame.dataType_fill fun h => absurd h helement,
      frame.dataType_fill fun h => absurd h helement]
    exact derive_of_not_shows hshows _ _

end Frame

/-- Different texts are seen through frames that show their places. -/
theorem text_plug_ne {frames : List Frame} (hshows : ∀ frame ∈ frames, frame.shows = true)
    {a b : Shape} (ha : a ≠ .scalar .u8) (hb : b ≠ .scalar .u8)
    (h : a.dataType.text ≠ b.dataType.text) :
    (plug frames a).dataType.text ≠ (plug frames b).dataType.text := by
  induction frames generalizing a b with
  | nil => exact h
  | cons frame rest ih =>
      refine ih (fun other hother => hshows other (List.mem_cons_of_mem _ hother))
        (frame.fill_ne_byte a) (frame.fill_ne_byte b) ?_
      rw [frame.dataType_fill fun _ => ha, frame.dataType_fill fun _ => hb]
      exact fun heq => h (Frame.text_derive_inj (hshows frame List.mem_cons_self) heq)

/-- Nothing is seen through a frame that hides its place. -/
theorem dataType_plug_of_not_shows {frames : List Frame} {frame : Frame} (hframe : frame ∈ frames)
    (hshows : frame.shows = false) (a b : Shape) :
    (plug frames a).dataType = (plug frames b).dataType := by
  induction frames generalizing a b with
  | nil => cases hframe
  | cons first rest ih =>
      rcases List.mem_cons.1 hframe with rfl | hframe
      · exact dataType_plug_congr rest (frame.fill_ne_byte a) (frame.fill_ne_byte b)
          (Frame.dataType_fill_of_not_shows hshows a b)
      · exact ih hframe (first.fill a) (first.fill b)

/-! ## Wrappers -/

/-- A wrapper has the data type of what it wraps. -/
theorem Wrapper.dataType_wrap (w : Wrapper) (shape : Shape) :
    (w.wrap shape).dataType = shape.dataType := by
  rw [wrap, dataType_composite, resolve]

/-- A wrapped byte is not a byte, so a sequence of them is no sequence of bytes. -/
theorem Wrapper.wrap_ne_byte (w : Wrapper) (shape : Shape) : w.wrap shape ≠ .scalar .u8 :=
  fun h => nomatch h

/-- A wrapper around anything but the element of a sequence of bytes changes nothing. -/
theorem dataType_plug_wrap (w : Wrapper) (frames : List Frame) {shape : Shape}
    (h : frames.head?.any Frame.isElement = true → shape ≠ .scalar .u8) :
    (plug frames (w.wrap shape)).dataType = (plug frames shape).dataType := by
  cases frames with
  | nil => exact w.dataType_wrap shape
  | cons frame rest =>
      refine dataType_plug_congr rest (frame.fill_ne_byte _) (frame.fill_ne_byte _) ?_
      rw [frame.dataType_fill fun _ => w.wrap_ne_byte shape, frame.dataType_fill h,
        w.dataType_wrap]

/-- A wrapper around the element of a sequence of bytes makes it a list, which is seen unless some
level hides it. -/
theorem dataType_plug_wrap_byte_ne (w : Wrapper) {frames : List Frame}
    (helement : frames.head?.any Frame.isElement = true)
    (hshows : ∀ frame ∈ frames, frame.shows = true) :
    (plug frames (w.wrap (.scalar .u8))).dataType ≠ (plug frames (.scalar .u8)).dataType := by
  cases frames with
  | nil => cases helement
  | cons frame rest =>
      have hframe : frame.shows = true := hshows frame List.mem_cons_self
      have hbytes := (Frame.dataType_fill_eq_bytes_iff helement hframe (.scalar .u8)).2 rfl
      have hlist := Frame.dataType_fill_eq_list helement hframe (w.wrap_ne_byte (.scalar .u8))
      have htext : (frame.fill (w.wrap (.scalar .u8))).dataType.text ≠
          (frame.fill (.scalar .u8)).dataType.text := by
        rw [hbytes, hlist, w.dataType_wrap]
        decide
      intro heq
      exact text_plug_ne (fun other hother => hshows other (List.mem_cons_of_mem _ hother))
        (frame.fill_ne_byte _) (frame.fill_ne_byte _) htext (congrArg DataType.text heq)

/-- **When a wrapper is seen.**  A transparent shape around a part of a shape leaves its data type
as it is, unless the part is a byte that is the element of a sequence, and no level around hides it.
A sequence is `bytes` exactly if its element is a byte itself, and else a list of whatever the data
type of the element is. -/
theorem wrapper_invisible_iff (w : Wrapper) (frames : List Frame) (shape : Shape) :
    ((plug frames (w.wrap shape)).dataType = (plug frames shape).dataType ↔
      ¬ (shape = .scalar .u8 ∧ frames.head?.any Frame.isElement = true ∧
        ∀ frame ∈ frames, frame.shows = true)) ∧
    ∀ frame : Frame, frame.isElement = true → frame.shows = true →
      ((frame.fill shape).dataType = .primitive .bytes ↔ shape = .scalar .u8) ∧
      (shape ≠ .scalar .u8 → (frame.fill shape).dataType = .list shape.dataType) := by
  refine ⟨⟨?_, ?_⟩, fun frame helement hshows =>
    ⟨Frame.dataType_fill_eq_bytes_iff helement hshows shape,
      Frame.dataType_fill_eq_list helement hshows⟩⟩
  · rintro heq ⟨rfl, helement, hshows⟩
    exact dataType_plug_wrap_byte_ne w helement hshows heq
  · intro hunseen
    by_cases hplain : frames.head?.any Frame.isElement = true → shape ≠ .scalar .u8
    · exact dataType_plug_wrap w frames hplain
    · -- some level around the byte hides it
      obtain ⟨helement, hbyte⟩ := Classical.not_imp.1 hplain
      have hhidden : ∃ frame ∈ frames, frame.shows = false := by
        simpa [Classical.not_not.1 hbyte, helement] using hunseen
      obtain ⟨frame, hframe, hshows⟩ := hhidden
      exact dataType_plug_of_not_shows hframe hshows _ _

/-- A transparent record around a byte. -/
def octet : Shape := Wrapper.wrap ⟨"Octet", .plain, .tupleRecord, []⟩ (.scalar .u8)

/-- The record is not seen in a list of optional octets, and a list of octets is a list of the data
type that an octet has. -/
theorem octet_invisible_in_option :
    (plug [.part "Option" false none .optionInner .undefined [],
        .part "Vec" false none .listElement .undefined []] octet).dataType =
      (plug [.part "Option" false none .optionInner .undefined [],
        .part "Vec" false none .listElement .undefined []] (.scalar .u8)).dataType ∧
    (Frame.fill octet (.part "Vec" false none .listElement .undefined [])).dataType =
      .list octet.dataType := by
  have hoptional := wrapper_invisible_iff ⟨"Octet", .plain, .tupleRecord, []⟩
    [.part "Option" false none .optionInner .undefined [],
      .part "Vec" false none .listElement .undefined []] (.scalar .u8)
  have hlist := wrapper_invisible_iff ⟨"Octet", .plain, .tupleRecord, []⟩ [] octet
  refine ⟨hoptional.1.2 fun h => ?_, (hlist.2 _ rfl rfl).2 (Wrapper.wrap_ne_byte _ _)⟩
  exact absurd h.2.1 (by decide)

/-- A list of octets is no sequence of bytes, though an octet has the data type of a byte. -/
theorem octets_not_bytes :
    octet.dataType = (Shape.scalar .u8).dataType ∧
    (Shape.composite "Vec" false none (.list (.scalar .u8)) .undefined []).dataType =
      .primitive .bytes ∧
    (Shape.composite "Vec" false none (.list octet) .undefined []).dataType =
      .list (.primitive .u8) := by
  decide

end Shape

end ServiceContract
