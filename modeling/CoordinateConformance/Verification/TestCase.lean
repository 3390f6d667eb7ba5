import CoordinateConformance.Operation.Factory
import CoordinateConformance.Tolerance.Registry
import CoordinateConformance.Verification.Configuration
import CoordinateConformance.Verification.Report
import CoordinateConformance.Verification.Sample

/-!
Contract: testing an operation against published control points.

Three checks are made in this order. The sample check transforms the control points and, if
wanted, their images back. The consistency check transforms points one by one and all at
once. The domain check sends a grid over the area of validity there and back. The first error
ends the test, and so does a size that is too large to compute with.
-/

namespace CoordinateConformance

/-- A configured test. Only valid configurations make a test. -/
structure TestCase where
  configuration : Configuration
  valid : configuration.validate = .ok ()
  modifiers : ModifierRegistry

namespace TestCase

/-- A test with the standard modifiers. -/
def ofConfiguration (functions : ElementaryFunctions Float) (configuration : Configuration) :
    Except ConformanceError TestCase :=
  match valid : configuration.validate with
  | .ok () => .ok ⟨configuration, valid, .standard functions⟩
  | .error error => .error error

def withModifiers (test : TestCase) (modifiers : ModifierRegistry) : TestCase :=
  { test with modifiers := modifiers }

def tolerances (test : TestCase) (dimension : Nat) : List Float :=
  List.replicate dimension test.configuration.tolerance

/-- The modifier for the family of a sample's target system. -/
def modifier (test : TestCase) (sample : Sample) : ToleranceModifier :=
  test.modifiers.getOrIdentity (.ofCode sample.target)

section Legs

variable [SizeArithmetic]

def verifyTransform (test : TestCase) (sample : Sample) (operation : Operation)
    (points expected : List Float) (calculation : Calculation) : Check Unit := do
  let actual ← operation.transformChecked points
  .ofResult (compareWithModifier expected actual (test.tolerances Sample.dimension)
    Sample.dimension (test.modifier sample) calculation)

/-- The control points are mapped to their published images, and back if that is tested and the
operation has an inverse. -/
def verifySample (test : TestCase) (sample : Sample) (operation : Operation) : Check Unit := do
  .ofResult (checkDimension "operation source dimensions" Sample.dimension
    operation.sourceDimensions)
  .ofResult (checkDimension "operation target dimensions" Sample.dimension
    operation.targetDimensions)
  test.verifyTransform sample operation sample.sourcePoints sample.targetPoints .direct
  match test.configuration.testsInverse, operation.inverse? with
  | true, some inverse =>
      test.verifyTransform sample inverse sample.targetPoints sample.sourcePoints .inverse
  | _, _ => return ()

def transformSingly (operation : Operation) : List (List Float) → Check (List Float)
  | [] => .ok []
  | point :: rest => do
      let image ← operation.transformChecked point
      let images ← transformSingly operation rest
      return image ++ images

/-- Single points are transformed exactly like a whole list. -/
def verifyConsistency (points : List Float) (operation : Operation) : Check Unit := do
  let dimension := operation.sourceDimensions
  if dimension = 0 ∨ points.length % dimension ≠ 0 then
    .error (.error (.dimensionMismatch "points are not a whole number of source points" dimension
      points.length))
  else
    let batch ← operation.transformChecked points
    let single ← transformSingly operation (Comparison.points dimension points)
    SizeArithmetic.reserve operation.targetDimensions
    .ofResult (compareCoordinates batch single (List.replicate operation.targetDimensions 0.0)
      operation.targetDimensions .strict)

end Legs

/-- The coordinate of a grid line: the border `least` and `index` of `steps` parts of the width. -/
def gridLine (least width : Float) (steps index : Nat) : Float :=
  least + width * Float.ofNat index / Float.ofNat steps

/-- The points of a grid over an area, borders included, row by row. -/
def grid (area : Rectangle Float) (size : Nat) : List Float :=
  let steps := max size 2 - 1
  (List.range size).flatMap fun row =>
    (List.range size).flatMap fun column =>
      [gridLine area.xMin area.width steps column, gridLine area.yMin area.height steps row]

section Runs

variable [SizeArithmetic]

/-- The number of values of a grid. -/
def gridCapacity (size : Nat) : Check Nat := do
  SizeArithmetic.product (← SizeArithmetic.product size size) 2

/-- A grid, for which room is made first. -/
def makeGrid (area : Rectangle Float) (size : Nat) : Check (List Float) := do
  SizeArithmetic.reserve (← gridCapacity size)
  return grid area size

/-- Grid points come back to where they started. Operations without an inverse are not checked. -/
def verifyInDomain (test : TestCase) (sample : Sample) (operation : Operation) : Check Unit :=
  match operation.inverse? with
  | none => .ok ()
  | some inverse => do
      .ofResult (checkDimension "operation source dimensions" 2 operation.sourceDimensions)
      let points ← makeGrid sample.area test.configuration.gridSize
      let images ← operation.transformChecked points
      let back ← inverse.transformChecked images
      .ofResult (compareWithModifier points back (test.tolerances 2) 2 (test.modifier sample)
        .inverse)

/-- All enabled checks of an operation against a sample. The domain check needs inverse
transforms. -/
def verify (test : TestCase) (sample : Sample) (operation : Operation) : Check Unit := do
  test.verifySample sample operation
  if test.configuration.checksConsistency then
    verifyConsistency sample.sourcePoints operation
  if test.configuration.checksDomain && test.configuration.testsInverse then
    test.verifyInDomain sample operation

/-- Tests an operation against the sample of a target system. -/
def compare (test : TestCase) (target : Int) (operation : Operation) : Check Outcome := do
  let sample ← Check.ofResult (Sample.get target)
  (test.verify sample operation).mapResult Outcome.ofResult

/-- The entry of a sample: tested with the operation of the first factory that supports it. -/
def runSample (test : TestCase) (factories : FactoryRegistry) (target : Int) : Check ReportEntry :=
  match factories.find? target with
  | some (factory, operation) => do
      let outcome ← test.compare target operation
      return ⟨target, some factory.name, outcome⟩
  | none =>
      .ok ⟨target, none, .skipped ("no factory supports EPSG:" ++ toString target)⟩

/-- Tests samples in order and adds their entries to a report. -/
def runSamples (test : TestCase) (factories : FactoryRegistry) :
    List Sample → Report → Check Report
  | [], report => .ok report
  | sample :: rest, report => do
      let entry ← test.runSample factories sample.target
      runSamples test factories rest (report.push entry.target entry.factory entry.outcome)

def runAll (test : TestCase) (factories : FactoryRegistry) : Check Report :=
  test.runSamples factories Sample.all .empty

end Runs

end TestCase

/-- Tests an operation with the standard configuration. -/
def compareWithStandard [SizeArithmetic] (functions : ElementaryFunctions Float) (target : Int)
    (operation : Operation) : Check Outcome := do
  let test ← Check.ofResult (TestCase.ofConfiguration functions .standard)
  test.compare target operation

end CoordinateConformance
