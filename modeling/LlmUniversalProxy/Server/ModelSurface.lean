/-!
# `Server.ModelSurface` — what a model is said to be able to do

The configuration may declare limits, the media a model takes and gives, and what it does with
tools. What is not declared is not restricted.

The source is `config/model_surface.rs` 8-152.
-/

set_option autoImplicit false

namespace LlmUniversalProxy.Server

/-- `config::ModelLimits`. -/
structure ModelLimits where
  contextWindow : Option Nat
  maxOutputTokens : Option Nat
  deriving DecidableEq, Repr

/-- `config::ModelModality`. -/
inductive ModelModality where
  | text
  | image
  | audio
  | pdf
  | file
  | video
  deriving DecidableEq, Repr

namespace ModelModality

/-- The modalities, in the order of a `BTreeSet`. -/
def all : List ModelModality := [.text, .image, .audio, .pdf, .file, .video]

theorem mem_all (modality : ModelModality) : modality ∈ all := by cases modality <;> decide

/-- `modality_label` (`translate/internal/assessment.rs` 1442-1451). -/
def label : ModelModality → String
  | .text => "text"
  | .image => "image"
  | .audio => "audio"
  | .pdf => "pdf"
  | .file => "file"
  | .video => "video"

end ModelModality

/-- `config::ModelModalities`. -/
structure ModelModalities where
  input : Option (List ModelModality) := none
  output : Option (List ModelModality) := none
  deriving DecidableEq, Repr

/-- `config::ModelToolSurface`, of which one field has a part in the handling of requests. -/
structure ModelToolSurface where
  supportsParallelCalls : Option Bool := none
  deriving DecidableEq, Repr

/-- `config::ModelSurface`. -/
structure ModelSurface where
  limits : Option ModelLimits := none
  modalities : Option ModelModalities := none
  tools : Option ModelToolSurface := none
  deriving DecidableEq, Repr

namespace ModelSurface

def maxOutputTokens (self : ModelSurface) : Option Nat :=
  self.limits.bind (·.maxOutputTokens)

def disablesParallelToolCalls (self : ModelSurface) : Bool :=
  self.tools.bind (·.supportsParallelCalls) = some false

def inputModalities (self : ModelSurface) : Option (List ModelModality) :=
  self.modalities.bind (·.input)

/-- The media declared for an answer. -/
def outputModalities (self : ModelSurface) : Option (List ModelModality) :=
  self.modalities.bind (·.output)

end ModelSurface

end LlmUniversalProxy.Server
