/-!
What a backend enforces: page sizes, the volume size given to instances that ask for none, and
the allowed instance types.
-/
namespace NotebookSim

structure Settings where
  listMaxResults : Nat
  tagPageSize : Nat
  defaultVolumeSizeGb : Nat
  instanceTypes : List String
  deriving DecidableEq, Repr

namespace Settings

/-- The largest page of a resource listing. -/
def greatestListPage : Nat := 100

/-- The largest page of a tag listing. -/
def greatestTagPage : Nat := 50

def defaultInstanceTypes : List String :=
  ["ml.p2.xlarge", "ml.m5.4xlarge", "ml.m4.16xlarge", "ml.t3.xlarge", "ml.p3.16xlarge",
    "ml.t2.xlarge", "ml.p2.16xlarge", "ml.c4.2xlarge", "ml.c5.2xlarge", "ml.c4.4xlarge",
    "ml.c5d.2xlarge", "ml.c5.4xlarge", "ml.c5d.4xlarge", "ml.c4.8xlarge", "ml.c5d.xlarge",
    "ml.c5.9xlarge", "ml.c5.xlarge", "ml.c5d.9xlarge", "ml.c4.xlarge", "ml.t2.2xlarge",
    "ml.c5d.18xlarge", "ml.t3.2xlarge", "ml.t3.medium", "ml.t2.medium", "ml.c5.18xlarge",
    "ml.p3.2xlarge", "ml.m5.xlarge", "ml.m4.10xlarge", "ml.t2.large", "ml.m5.12xlarge",
    "ml.m4.xlarge", "ml.t3.large", "ml.m5.24xlarge", "ml.m4.2xlarge", "ml.p2.8xlarge",
    "ml.m5.2xlarge", "ml.p3.8xlarge", "ml.m4.4xlarge"]

def default : Settings := ⟨greatestListPage, greatestTagPage, 5, defaultInstanceTypes⟩

/-- The settings as backends apply them: an empty allow-list stands for the default one. -/
def enforced (settings : Settings) : Settings :=
  if settings.instanceTypes.isEmpty then { settings with instanceTypes := defaultInstanceTypes }
  else settings

def allows (settings : Settings) (instanceType : String) : Bool :=
  settings.instanceTypes.contains instanceType

end Settings
end NotebookSim
