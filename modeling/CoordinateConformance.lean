import CoordinateConformance.Geodesy.StandardOperators
import CoordinateConformance.Geometry.Document
import CoordinateConformance.Json.Standard
import CoordinateConformance.Proofs.Tolerance.Undefined
import CoordinateConformance.Proofs.Tolerance.FamilyNames
import CoordinateConformance.Proofs.Tolerance.ZeroTolerance
import CoordinateConformance.Proofs.Tolerance.Union
import CoordinateConformance.Proofs.Tolerance.AxisOrder
import CoordinateConformance.Proofs.Verification.Loosening
import CoordinateConformance.Proofs.Verification.Run
import CoordinateConformance.Proofs.Verification.ConsistencyResult
import CoordinateConformance.Proofs.Verification.Handed
import CoordinateConformance.Proofs.Verification.GridCover
import CoordinateConformance.Proofs.Operation.Inversion
import CoordinateConformance.Proofs.Operation.Pointwise
import CoordinateConformance.Proofs.Verification.WordSizes
import CoordinateConformance.Proofs.Verification.Switches
import CoordinateConformance.Proofs.Verification.ProjectedFamily
import CoordinateConformance.Proofs.Verification.ConfigurationText
import CoordinateConformance.Proofs.Verification.ReportText
import CoordinateConformance.Proofs.Binary64.Bounds
import CoordinateConformance.Proofs.Geodesy.FiniteResults
import CoordinateConformance.Proofs.Geodesy.RoundTrips
import CoordinateConformance.Proofs.Geodesy.LatitudeIteration
import CoordinateConformance.Proofs.Geodesy.SphericalMercator
import CoordinateConformance.Proofs.Tolerance.AxisWise
import CoordinateConformance.Proofs.Comparison.Exchange
import CoordinateConformance.Proofs.Comparison.Blocks
import CoordinateConformance.Proofs.Tolerance.LastRegistration
import CoordinateConformance.Proofs.Verification.ExactRoundTrip
import CoordinateConformance.Proofs.Geometry.NumberOrder
import CoordinateConformance.Proofs.Geometry.BoundingBox
import CoordinateConformance.Proofs.Decimal.PlainText
import CoordinateConformance.Proofs.Geometry.IntegerSize
import CoordinateConformance.Proofs.Geodesy.OperatorText
import CoordinateConformance.Proofs.Json.NumberRecords
import CoordinateConformance.Proofs.Geometry.WrittenForms
