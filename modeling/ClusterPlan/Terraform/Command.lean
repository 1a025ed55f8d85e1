import ClusterPlan.Program.Basic

/-!
# Calls of the provisioner

The provisioner works in the directory of its resources and never asks back.
-/

namespace ClusterPlan.Terraform

def program : String := "terraform"

def callIn (directory : String) (arguments : List String) : Program.Call :=
  ⟨program, ("-chdir=" ++ directory) :: arguments⟩

def initCall (directory : String) : Program.Call :=
  callIn directory ["init", "-input=false", "-no-color"]

def applyCall (directory : String) : Program.Call :=
  callIn directory ["apply", "-auto-approve", "-input=false", "-no-color"]

def destroyCall (directory : String) : Program.Call :=
  callIn directory ["destroy", "-auto-approve", "-input=false", "-no-color"]

end ClusterPlan.Terraform
