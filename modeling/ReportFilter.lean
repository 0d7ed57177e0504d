import ReportFilter.Engine
import ReportFilter.Loading
import ReportFilter.Value.Reader
import ReportFilter.Proofs.Outline
import ReportFilter.Proofs.BuiltIns
import ReportFilter.Proofs.Histories
import ReportFilter.Proofs.RegistrationOrder
import ReportFilter.Proofs.FirstLoads
import ReportFilter.Proofs.RepeatedLoads
import ReportFilter.Proofs.Validations
import ReportFilter.Proofs.Runs
import ReportFilter.Proofs.Modes
import ReportFilter.Proofs.ValueIsolation
import ReportFilter.Proofs.FailedFilters
import ReportFilter.Proofs.DayWindows
import ReportFilter.Proofs.DayTiling
import ReportFilter.Proofs.Search
import ReportFilter.Proofs.Sentences
import ReportFilter.Proofs.DateFilters
import ReportFilter.Proofs.DateLiterals
import ReportFilter.Proofs.Conjuncts
import ReportFilter.Proofs.Operands
import ReportFilter.Proofs.JoinedFilters
import ReportFilter.Proofs.Preparations
import ReportFilter.Proofs.KeptSettings
import ReportFilter.Proofs.FailedAppends
import ReportFilter.Proofs.VerbatimTemplates
import ReportFilter.Proofs.GroupedAmounts
import ReportFilter.Proofs.Weeks
import ReportFilter.Proofs.BoundTexts
import ReportFilter.Proofs.Complements
import ReportFilter.Proofs.PrintedAmounts
import ReportFilter.Proofs.WeekStarts
import ReportFilter.Proofs.CalendarEnds
import ReportFilter.Proofs.Arities
import ReportFilter.Proofs.LeadingIntegers
