import ModeParameters.BitSpan
import ModeParameters.ModeHeader
import ModeParameters.Page.Header

/-! # Page images

A page is read as part of a whole response, and the whole response is what is written back. A page
image is a response that has been judged, with the place of the page in it; edits go to its bytes and
never move the page. The images of the variants of a page are kept together. -/

namespace ModeParameters

/-- One variant of a page, as it was read. -/
structure PageImage where
  /-- The variant. -/
  control : PageControl
  /-- The whole response. -/
  response : Bytes
  /-- Where the page starts in it. -/
  offset : Nat
  /-- How long the page says it is. -/
  pageLength : Nat
  /-- The page lies within the response. -/
  page_le : offset + pageLength ≤ response.length
deriving DecidableEq, Repr

namespace PageImage

/-- The page, to the end that it declares: a window of `pageLength` bytes. -/
def page (image : PageImage) : Bytes := Bytes.window image.response image.offset image.pageLength

/-- The bytes from the start of the page to the end of the response: `response.drop offset`. -/
def tail (image : PageImage) : Bytes := image.response.drop image.offset

/-- The page can be saved. -/
def isSavable (image : PageImage) : Bool := Page.isSavable image.page

/-- The same image with other bytes of the same number. -/
def withResponse (image : PageImage) (response : Bytes)
    (h : response.length = image.response.length) : PageImage :=
  { image with response, page_le := h ▸ image.page_le }

/-- The same image with other bytes from the start of the page on, as many as before: a new
`tail`. -/
def withTail (image : PageImage) (tail : Bytes) (h : tail.length = image.tail.length) : PageImage :=
  image.withResponse (image.response.take image.offset ++ tail) <| by
    have := image.page_le
    simp only [PageImage.tail, List.length_drop] at h
    simp only [List.length_append, List.length_take, h]
    omega

@[simp] theorem length_page (image : PageImage) : image.page.length = image.pageLength :=
  Bytes.length_window image.page_le

@[simp] theorem length_tail (image : PageImage) :
    image.tail.length = image.response.length - image.offset := List.length_drop

@[simp] theorem response_withTail (image : PageImage) (tail : Bytes)
    (h : tail.length = image.tail.length) :
    (image.withTail tail h).response = image.response.take image.offset ++ tail := rfl

/-- The image with a number written to a bit span by `BitSpan.write`, which counts from the start of
the page and may reach to the end of the response. -/
def write (image : PageImage) (span : BitSpan) (value : Nat) : Except BitSpanError PageImage :=
  match h : span.write value image.tail with
  | .error e => .error e
  | .ok tail => .ok (image.withTail tail (BitSpan.length_of_write h))

/-- The image with the bytes of the page from `start` on replaced by others, if they all lie within
the response. -/
def overwrite (image : PageImage) (start : Nat) (new : Bytes) : PageImage :=
  if h : start + new.length ≤ image.tail.length then
    image.withTail (Bytes.overwrite image.tail start new) (Bytes.length_overwrite h)
  else image

/-- The image without the bits that a MODE SELECT wants clear: the length of the mode data
(`ModeHeader.clearLength`), and the `Page.savableBit` of the page. -/
def forSelect (image : PageImage) (size : CommandSize) : PageImage :=
  let cleared := image.withResponse (ModeHeader.clearLength size image.response)
    (ModeHeader.length_clearLength size image.response)
  cleared.withTail (cleared.tail.modifyHead (· &&& ~~~Page.savableBit)) (by simp)

end PageImage

/-- The variants of a page that were read. -/
structure PageImages where
  /-- The values in effect. -/
  current : Option PageImage := none
  /-- The mask of changeable bits. -/
  changeable : Option PageImage := none
  /-- The manufacturer's values. -/
  default : Option PageImage := none
  /-- The values restored at power on. -/
  saved : Option PageImage := none
deriving DecidableEq, Repr

namespace PageImages

/-- The image of a variant, if it was read: the field named by the `PageControl`. -/
def get (images : PageImages) : PageControl → Option PageImage
  | .current => images.current
  | .changeable => images.changeable
  | .default => images.default
  | .saved => images.saved

/-- The images with one more, which goes to the place of its `control`. -/
def insert (images : PageImages) (image : PageImage) : PageImages :=
  match image.control with
  | .current => { images with current := some image }
  | .changeable => { images with changeable := some image }
  | .default => { images with default := some image }
  | .saved => { images with saved := some image }

@[simp] theorem get_insert (images : PageImages) (image : PageImage) (control : PageControl) :
    (images.insert image).get control =
      if image.control = control then some image else images.get control := by
  unfold insert
  cases h : image.control <;> cases control <;> simp [get]

@[simp] theorem get_empty (control : PageControl) : PageImages.get {} control = none := by
  cases control <;> rfl

end PageImages

end ModeParameters
