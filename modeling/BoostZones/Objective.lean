/-!
Objectives. An objective says what is being learned: a number, a class out of several, or a
count. Log loss with two classes needs one score for a sample, with more classes one score for
each; the link says how scores become predictions.
-/

namespace BoostZones

/-- How scores become predictions. -/
inductive Link where
  | identity
  | logit
  | log
  | softmax
deriving DecidableEq

/-- The number that stands for a link in a handle. -/
def Link.code : Link → Int32
  | .identity => 1
  | .logit => 2
  | .log => 3
  | .softmax => 4

inductive Objective where
  /-- Regression by squares. -/
  | rmse
  /-- Classification. -/
  | logLoss (classes : UInt64)
  /-- Regression of counts. -/
  | poissonDeviance
deriving DecidableEq

namespace Objective

/-- Classification into two classes. -/
def binary : Objective := .logLoss 2

def name : Objective → String
  | .rmse => "rmse"
  | .logLoss _ => "log_loss"
  | .poissonDeviance => "poisson_deviance"

/-- The number that stands for the objective in a handle; class counts share one. -/
def code : Objective → UInt32
  | .rmse => 1
  | .logLoss _ => 2
  | .poissonDeviance => 3

/-- Scores of one sample. -/
def scoreCount : Objective → UInt64
  | .logLoss classes => if 2 < classes then classes else 1
  | _ => 1

def link : Objective → Link
  | .rmse => .identity
  | .logLoss classes => if 2 < classes then .softmax else .logit
  | .poissonDeviance => .log

/-- A sample has more than one score. -/
def isMulticlass (o : Objective) : Bool :=
  1 < o.scoreCount

/-- The hessian does not depend on the score. -/
def hasConstantHessian (o : Objective) : Bool :=
  o == .rmse

/-- The metric that is reported for a weighted mean. -/
def finish (o : Objective) (mean : Float) : Float :=
  match o with
  | .rmse => mean.sqrt
  | _ => mean

end Objective
end BoostZones
