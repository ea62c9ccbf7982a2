import CodeGrading.Main
import CodeGrading.Proofs.Grading.Failure
import CodeGrading.Proofs.Grading.Marks
import CodeGrading.Proofs.Structure.Order
import CodeGrading.Proofs.Grading.Unrun
import CodeGrading.Proofs.Grading.Outcomes
import CodeGrading.Proofs.Structure.Reporting
import CodeGrading.Proofs.Structure.OneMethod
import CodeGrading.Proofs.Structure.Retyping
import CodeGrading.Proofs.Grading.Rules
import CodeGrading.Proofs.Template.Lines
import CodeGrading.Proofs.Score.Lookup
import CodeGrading.Proofs.Runner.WireFormat
import CodeGrading.Proofs.GradedResult.Stored
import CodeGrading.Proofs.Variations
import CodeGrading.Proofs.CommandLine
import CodeGrading.Proofs.Settings.LastLoad
import CodeGrading.Proofs.Structure.Blame
import CodeGrading.Proofs.TypeList.Erasure
import CodeGrading.Proofs.Runner.Responses
import CodeGrading.Proofs.Settings.Numbers
import CodeGrading.Proofs.Overloads.Partition
