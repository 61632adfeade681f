import Deliberation.Log.Record
import Deliberation.Main
import Deliberation.Proofs.Number.Bounds
import Deliberation.Service.Basic
import Deliberation.Value.Reader
import Deliberation.Proofs.Clustering.Summation
import Deliberation.Proofs.Clustering.Pairs
import Deliberation.Proofs.Clustering.Run
import Deliberation.Proofs.Clustering.Linked
import Deliberation.Proofs.Number.Order
import Deliberation.Proofs.Clustering.Recomputed
import Deliberation.Proofs.Clustering.Coherence
import Deliberation.Proofs.Clustering.Answers
import Deliberation.Proofs.Clustering.Placement
import Deliberation.Proofs.Clustering.Threshold
import Deliberation.Proofs.Clustering.Descent
import Deliberation.Proofs.Clustering.Sweep
import Deliberation.Proofs.Interleaving
import Deliberation.Proofs.Clustering.Parts
import Deliberation.Proofs.Clustering.Topics
import Deliberation.Proofs.Number.Monotone
import Deliberation.Proofs.Cache.Clock
import Deliberation.Proofs.Cache.Entries
import Deliberation.Proofs.Cache.History
import Deliberation.Proofs.Cache.Live
import Deliberation.Proofs.Service.Previews
import Deliberation.Proofs.Service.Transparency
import Deliberation.Proofs.Text.Lines
import Deliberation.Proofs.Text.Blanks
import Deliberation.Proofs.Pattern.Ways
import Deliberation.Proofs.Calibration.Delimiters
import Deliberation.Proofs.Calibration.RoundTrip
import Deliberation.Proofs.Number.Operations
import Deliberation.Proofs.Number.Halves
import Deliberation.Proofs.Number.Places
import Deliberation.Proofs.Number.Means
import Deliberation.Proofs.Feedback.Confidence
import Deliberation.Proofs.Feedback.Findings
import Deliberation.Proofs.Feedback.Reports
import Deliberation.Proofs.Feedback.Ranking
import Deliberation.Proofs.Feedback.Panel
import Deliberation.Proofs.Feedback.Readiness
import Deliberation.Proofs.Feedback.Winner
import Deliberation.Proofs.Feedback.Session
import Deliberation.Proofs.Calibration.Conservation
import Deliberation.Proofs.CommonGround.Tally
import Deliberation.Proofs.CommonGround.Remainders
import Deliberation.Proofs.CommonGround.Points
import Deliberation.Proofs.CommonGround.Weighing
import Deliberation.Proofs.Proposition.Sides
import Deliberation.Proofs.CommonGround.Neutrality
import Deliberation.Proofs.Proposition.Stances
import Deliberation.Proofs.CommonGround.Contributions
import Deliberation.Proofs.CommonGround.Disagreements
import Deliberation.Proofs.CommonGround.Precedence
import Deliberation.Proofs.CommonGround.Quotas
import Deliberation.Proofs.CommonGround.Apportionment
import Deliberation.Proofs.CommonGround.Viewpoints
import Deliberation.Proofs.CommonGround.Decisions
import Deliberation.Proofs.Pattern.Seams
import Deliberation.Proofs.Feedback.Sentences
import Deliberation.Proofs.Pattern.Recasing
import Deliberation.Proofs.Feedback.Recasing
import Deliberation.Proofs.Proposition.Rules
import Deliberation.Proofs.Proposition.Refusals
import Deliberation.Proofs.Service.Bodies
import Deliberation.Proofs.Service.Layers
import Deliberation.Proofs.Cache.Separation
import Deliberation.Proofs.Cache.Retention
import Deliberation.Proofs.Calibration.Headers
import Deliberation.Proofs.Calibration.Sections
import Deliberation.Proofs.Calibration.Adjacent
import Deliberation.Proofs.Calibration.Comments
import Deliberation.Proofs.Calibration.Verdict
import Deliberation.Proofs.CommonGround.Agreement
import Deliberation.Proofs.Feedback.Assurance
import Deliberation.Proofs.Number.Drift
import Deliberation.Proofs.Clustering.Cohesion
import Deliberation.Proofs.CommonGround.Scores
import Deliberation.Proofs.Feedback.Leading
import Deliberation.Proofs.Pattern.Excerpts
import Deliberation.Proofs.Feedback.Display
import Deliberation.Proofs.CommonGround.Interpretations
import Deliberation.Proofs.Proposition.Normal
import Deliberation.Proofs.Clustering.Keywords
import Deliberation.Proofs.Clustering.Renaming
import Deliberation.Proofs.Log.Lines
