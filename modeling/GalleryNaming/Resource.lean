import GalleryNaming.Rules

/-!
# The resources of an image gallery

A gallery holds images and an image has versions.  Each of them has naming
rules of its own.  A name is checked either through the function for its
resource or through the resource as a value, and `check_eq` says that both run
the same validator.
-/

namespace GalleryNaming

inductive Resource where
  | gallery
  | image
  | imageVersion
deriving DecidableEq

def checkGalleryName (value label : String) : Logged Report :=
  (NameRule.gallery.validator label).check value

def checkImageName (value label : String) : Logged Report :=
  (NameRule.image.validator label).check value

def checkImageVersionName (value label : String) : Logged Report :=
  (VersionRule.validator label).check value

namespace Resource

/-- From the outermost resource inward. -/
def all : List Resource :=
  [.gallery, .image, .imageVersion]

theorem mem_all (resource : Resource) : resource ∈ all := by
  cases resource <;> simp [all]

def title : Resource → String
  | .gallery => "Shared Image Gallery"
  | .image => "Shared Image"
  | .imageVersion => "Shared Image Version"

def toDump : Resource → Dump
  | .gallery => .record "Gallery" []
  | .image => .record "Image" []
  | .imageVersion => .record "ImageVersion" []

def toJson : Resource → Json
  | .gallery => .text "gallery"
  | .image => .text "image"
  | .imageVersion => .text "image_version"

instance : ToString Resource :=
  ⟨title⟩

/-- The rules of the resource, bound to the label of a field. -/
def validator : Resource → String → Validator
  | .gallery => NameRule.gallery.validator
  | .image => NameRule.image.validator
  | .imageVersion => VersionRule.validator

@[simp] theorem label_validator (resource : Resource) (label : String) :
    (resource.validator label).label = label := by
  cases resource <;> rfl

def check (resource : Resource) (value label : String) : Logged Report :=
  match resource with
  | .gallery => checkGalleryName value label
  | .image => checkImageName value label
  | .imageVersion => checkImageVersionName value label

theorem check_eq (resource : Resource) (value label : String) :
    resource.check value label = (resource.validator label).check value := by
  cases resource <;> rfl

end Resource

end GalleryNaming
