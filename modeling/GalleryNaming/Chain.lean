import GalleryNaming.Resource

/-!
# Fields and chains of checks

A configuration field holds the name of one resource and is known to people
by its label.  The field decides which validator its content has to pass.

Several fields are filled in together.  Their contents are validated in order
and the first rejection ends the chain: later fields are neither checked nor
logged.
-/

namespace GalleryNaming

/-! ## Fields that hold resource names -/

structure NameField where
  resource : Resource
  label : String
deriving DecidableEq

namespace NameField

def validator (field : NameField) : Validator :=
  field.resource.validator field.label

@[simp] theorem label_validator (field : NameField) :
    field.validator.label = field.label :=
  field.resource.label_validator field.label

/-- A field is shown as the validator of its resource. -/
def toDump (field : NameField) : Dump :=
  let name :=
    match field.resource with
    | .gallery => "SharedImageGalleryNameValidator"
    | .image => "SharedImageNameValidator"
    | .imageVersion => "SharedImageVersionNameValidator"
  .record name [("field_name", .text field.label)]

end NameField

/-! ## Chains -/

namespace Chain

structure Link where
  field : NameField
  value : String
deriving DecidableEq

/-- How a chain ended and how many of its links passed before. -/
structure Outcome where
  passed : Nat
  result : Except Rejection Unit

def Link.validate (link : Link) : Logged (Except Rejection Unit) :=
  link.field.validator.validate link.value

/-- The outcome of a chain that has one more passing link in front. -/
def Outcome.afterPass (outcome : Outcome) : Outcome :=
  { outcome with passed := outcome.passed + 1 }

def run : List Link → Logged Outcome
  | [] => return ⟨0, .ok ()⟩
  | link :: rest => do
      match ← link.validate with
      | .ok () => return (← run rest).afterPass
      | .error rejection => return ⟨0, .error rejection⟩

@[simp] theorem run_nil (log : List Log.Entry) :
    (run []).run log = (⟨0, .ok ()⟩, log) := rfl

end Chain

end GalleryNaming
